/-
This file reads JSON text into plain data. It accepts exactly the grammar of JSON: spaces only
between tokens, no control character inside a string, and escaped surrogates only in pairs. An
integer literal becomes an integer; a literal with a fraction, an exponent or a negative zero is
kept as it was written.
-/
import Wayfinder.Datum.Reading
import Wayfinder.Text.Digits

namespace Wayfinder.Json

open Wayfinder.Text

/-- In JSON a list of fields is never longer than the record, and an alternative that carries
nothing carries `null`. -/
def leniency : Datum.Leniency where
  surplusItems := false
  carriesNothing
    | .null => true
    | _ => false

/-- The text after any spaces. -/
def skipSpaces (text : List Char) : List Char :=
  text.dropWhile fun character =>
    character == ' ' || character == '\t' || character == '\n' || character == '\r'

/-! ### Strings -/

/-- One unit of a string: a character as it stands or from a short escape, or the code of a long
escape, which may be half of a pair. -/
inductive Unit16 where
  | character (value : Char)
  | code (value : Nat)

/-- The character of a short escape. -/
def shortEscape? : Char → Option Char
  | '"' => some '"'
  | '\\' => some '\\'
  | '/' => some '/'
  | 'b' => some '\x08'
  | 'f' => some '\x0c'
  | 'n' => some '\n'
  | 'r' => some '\r'
  | 't' => some '\t'
  | _ => none

/-- The units of a string up to its closing quotation mark, and the text after it. -/
def stringUnits : List Char → Option (List Unit16 × List Char)
  | [] => none
  | character :: rest =>
    if character = '"' then some ([], rest)
    else if character = '\\' then
      match rest with
      | 'u' :: a :: b :: c :: d :: later =>
        if [a, b, c, d].all (isDigitOf 16) then
          (stringUnits later).map fun (units, after) =>
            (.code (ofDigits 16 [a, b, c, d]) :: units, after)
        else none
      | escape :: later =>
        match shortEscape? escape with
        | some value =>
          (stringUnits later).map fun (units, after) => (.character value :: units, after)
        | none => none
      | [] => none
    else if character.toNat < 0x20 then none
    else (stringUnits rest).map fun (units, after) => (.character character :: units, after)

/-- The characters that units stand for; half of a pair on its own stands for none. -/
def joinUnits : List Unit16 → Option (List Char)
  | [] => some []
  | .character value :: rest => (joinUnits rest).map (value :: ·)
  | .code high :: rest =>
    if 0xd800 ≤ high ∧ high < 0xdc00 then
      match rest with
      | .code low :: later =>
        if 0xdc00 ≤ low ∧ low < 0xe000 then
          let code := 0x10000 + 0x400 * (high - 0xd800) + (low - 0xdc00)
          (joinUnits later).map (Char.ofNat code :: ·)
        else none
      | _ => none
    else if 0xdc00 ≤ high ∧ high < 0xe000 then none
    else (joinUnits rest).map (Char.ofNat high :: ·)

/-- A string after its opening quotation mark, and the text after its closing one. -/
def stringBody (text : List Char) : Option (String × List Char) := do
  let (units, after) ← stringUnits text
  let characters ← joinUnits units
  return (String.ofList characters, after)

/-! ### Numbers -/

/-- Whether a text is empty or the exponent of a number. -/
def isExponent : List Char → Bool
  | [] => true
  | mark :: rest =>
    let digits := match rest with
      | '+' :: digits => digits
      | '-' :: digits => digits
      | digits => digits
    (mark == 'e' || mark == 'E') && !digits.isEmpty && digits.all (isDigitOf 10)

/-- Whether a text is a fraction, an exponent, or one after the other. -/
def isFractionOrExponent : List Char → Bool
  | '.' :: rest =>
    !(rest.takeWhile (isDigitOf 10)).isEmpty && isExponent (rest.dropWhile (isDigitOf 10))
  | text => isExponent text

/-- The number that a whole literal stands for. -/
def number? (literal : List Char) : Option Datum :=
  let (negative, unsigned) := match literal with
    | '-' :: rest => (true, rest)
    | rest => (false, rest)
  let whole := unsigned.takeWhile (isDigitOf 10)
  let rest := unsigned.dropWhile (isDigitOf 10)
  if whole.isEmpty || (whole.head? == some '0' && whole.length != 1) then none
  else if rest.isEmpty then
    let value := ofDigits 10 whole
    if negative then
      if value = 0 then some (.real "-0") else some (.integer (-value))
    else some (.integer value)
  else if isFractionOrExponent rest then some (.real (String.ofList literal))
  else none

/-- A character that a number literal can hold. -/
def isNumberCharacter (character : Char) : Bool :=
  isDigitOf 10 character || character == '-' || character == '+' || character == '.' ||
    character == 'e' || character == 'E'

/-! ### Values -/

mutual

/-- A value at the start of a text, and the text after it. The fuel bounds the number of steps
and is never short when it is the length of the text. -/
def value : Nat → List Char → Option (Datum × List Char)
  | 0, _ => none
  | fuel + 1, text =>
    match text with
    | 'n' :: 'u' :: 'l' :: 'l' :: rest => some (.null, rest)
    | 't' :: 'r' :: 'u' :: 'e' :: rest => some (.bool true, rest)
    | 'f' :: 'a' :: 'l' :: 's' :: 'e' :: rest => some (.bool false, rest)
    | '"' :: rest => (stringBody rest).map fun (string, after) => (.text string, after)
    | '[' :: rest =>
      match skipSpaces rest with
      | ']' :: after => some (.list [], after)
      | first => (items fuel first).map fun (values, after) => (.list values, after)
    | '\x7b' :: rest =>
      match skipSpaces rest with
      | '\x7d' :: after => some (.record [], after)
      | first => (members fuel first).map fun (found, after) => (.record found, after)
    | other =>
      (number? (other.takeWhile isNumberCharacter)).map fun number =>
        (number, other.dropWhile isNumberCharacter)

/-- The items of a list up to its closing bracket, at least one. -/
def items : Nat → List Char → Option (List Datum × List Char)
  | 0, _ => none
  | fuel + 1, text => do
    let (item, rest) ← value fuel text
    match skipSpaces rest with
    | ',' :: next =>
      let (later, after) ← items fuel (skipSpaces next)
      return (item :: later, after)
    | ']' :: after => return ([item], after)
    | _ => none

/-- The members of a record up to its closing brace, at least one. -/
def members : Nat → List Char → Option (List (String × Datum) × List Char)
  | 0, _ => none
  | fuel + 1, text =>
    match text with
    | '"' :: start => do
      let (name, rest) ← stringBody start
      match skipSpaces rest with
      | ':' :: start =>
        let (datum, rest) ← value fuel (skipSpaces start)
        match skipSpaces rest with
        | ',' :: next =>
          let (later, after) ← members fuel (skipSpaces next)
          return ((name, datum) :: later, after)
        | '\x7d' :: after => return ([(name, datum)], after)
        | _ => none
      | _ => none
    | _ => none

end

/-- The datum that a JSON text stands for. -/
def read (text : String) : Option Datum :=
  let characters := text.toList
  match value (characters.length + 1) (skipSpaces characters) with
  | some (datum, rest) => if (skipSpaces rest).isEmpty then some datum else none
  | none => none

end Wayfinder.Json
