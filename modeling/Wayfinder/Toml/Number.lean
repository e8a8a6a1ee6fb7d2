/-
This file reads the numbers of a TOML text. Integers have 64 bits and a sign, or stand without a
sign in base sixteen, eight or two. Digits may be set off from each other by single underscores.
A number with a fraction or an exponent must not be too great for a double, unless it is
negative.
-/
import Wayfinder.Datum
import Wayfinder.Toml.Quoted

namespace Wayfinder.Toml

open Wayfinder.Text

/-- A row of digits of a base, at least one, in which single underscores may stand between two
digits. The underscores are left out. -/
def digits? (base : Nat) : List Char → Option (List Char × List Char)
  | [] => none
  | digit :: '_' :: later =>
    if isDigitOf base digit then prepend [digit] (digits? base later) else none
  | digit :: rest =>
    if !isDigitOf base digit then none
    else if rest.head?.any (isDigitOf base) then prepend [digit] (digits? base rest)
    else some ([digit], rest)

/-- A sign, which may be missing: whether it is a minus, and the text after it. -/
def sign : List Char → Bool × List Char
  | '-' :: rest => (true, rest)
  | '+' :: rest => (false, rest)
  | text => (false, text)

/-- The whole part of a decimal number: a zero, or digits of which the first is not zero. -/
def whole? : List Char → Option (List Char × List Char)
  | '0' :: rest => some (['0'], rest)
  | text => digits? 10 text

/-! ### Integers -/

/-- The integer datum of a value that has 64 bits and a sign. -/
def integerDatum? (value : Int) : Option Datum :=
  let bound : Int := Nat.pow 2 63
  if -bound ≤ value && value < bound then some (.integer value) else none

/-- An integer in a base, after the mark of the base. -/
def inBase? (base : Nat) (text : List Char) : Option (Datum × List Char) := do
  let (digits, rest) ← digits? base text
  let datum ← integerDatum? (ofDigits base digits)
  return (datum, rest)

/-- An integer. -/
def integer? (text : List Char) : Option (Datum × List Char) :=
  match text with
  | '0' :: 'x' :: rest => inBase? 16 rest
  | '0' :: 'o' :: rest => inBase? 8 rest
  | '0' :: 'b' :: rest => inBase? 2 rest
  | _ => do
    let (negative, unsigned) := sign text
    let (digits, rest) ← whole? unsigned
    let value : Int := ofDigits 10 digits
    let datum ← integerDatum? (if negative then -value else value)
    return (datum, rest)

/-! ### Numbers with a fraction or an exponent -/

/-- Whether the digits, with the decimal point moved right by the exponent, are a number that
rounds to no finite double. The greatest double is half a step below the limit. -/
def isTooGreat (digits : List Char) (exponent : Int) : Bool :=
  let significant := digits.dropWhile (· == '0')
  let magnitude := significant.length + exponent
  if significant.isEmpty || magnitude < 300 then false
  else if 320 < magnitude then true
  else
    let value := ofDigits 10 significant * Nat.pow 10 exponent.toNat
    let limit := (Nat.pow 2 1024 - Nat.pow 2 970) * Nat.pow 10 (-exponent).toNat
    limit ≤ value

/-- The exponent of a number, if it has one. -/
def exponent? (text : List Char) : Option (Option Int × List Char) :=
  match text with
  | mark :: rest =>
    if mark == 'e' || mark == 'E' then do
      let (negative, unsigned) := sign rest
      let (digits, after) ← digits? 10 unsigned
      let value : Int := ofDigits 10 digits
      return (some (if negative then -value else value), after)
    else some (none, text)
  | [] => some (none, [])

/-- The digits of a fraction, if there is one. -/
def fractionDigits? (text : List Char) : Option (Option (List Char) × List Char) :=
  match text with
  | '.' :: rest => (digits? 10 rest).map fun (digits, after) => (some digits, after)
  | _ => some (none, text)

/-- A decimal number with a fraction, an exponent, or both. -/
def decimal? (text : List Char) : Option (Datum × List Char) := do
  let (negative, unsigned) := sign text
  let (whole, rest) ← whole? unsigned
  let (fraction, rest) ← fractionDigits? rest
  let (exponent, rest) ← exponent? rest
  if fraction.isNone && exponent.isNone then none
  else
    let places := fraction.getD []
    if !negative && isTooGreat (whole ++ places) (exponent.getD 0 - places.length) then none
    else return (.real (String.ofList (text.take (text.length - rest.length))), rest)

/-- One of the numbers that are no numbers of the line: the infinities, and the value that is
not a number. -/
def special? (text : List Char) : Option (Datum × List Char) :=
  match (sign text).2 with
  | 'i' :: 'n' :: 'f' :: rest => some (.real "inf", rest)
  | 'n' :: 'a' :: 'n' :: rest => some (.real "nan", rest)
  | _ => none

/-- A number of any kind. -/
def number? (text : List Char) : Option (Datum × List Char) :=
  decimal? text <|> special? text <|> integer? text

end Wayfinder.Toml
