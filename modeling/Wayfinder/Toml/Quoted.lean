/-
This file reads the strings of a TOML text: basic strings with escapes, literal strings without,
and the forms of either that go over several lines.
-/
import Wayfinder.Text.Digits
import Wayfinder.Toml.Space

namespace Wayfinder.Toml

open Wayfinder.Text

/-- A part of a text that was read, with more characters in front of it. -/
def prepend (first : List Char) (later : Option (List Char × List Char)) :
    Option (List Char × List Char) :=
  later.map fun (characters, rest) => (first ++ characters, rest)

/-! ### Escapes -/

/-- The character of an escape that is one letter. -/
def shortEscape? : Char → Option Char
  | 'b' => some '\x08'
  | 't' => some '\t'
  | 'n' => some '\n'
  | 'f' => some '\x0c'
  | 'r' => some '\r'
  | '"' => some '"'
  | '\\' => some '\\'
  | _ => none

/-- The character whose code is written in hexadecimal digits, which is no half of a pair. -/
def ofCode? (digits : List Char) : Option Char :=
  let code := ofDigits 16 digits
  if digits.all (isDigitOf 16) && (code < 0xd800 || (0xe000 ≤ code && code < 0x110000)) then
    some (Char.ofNat code)
  else none

/-! ### Strings on one line -/

/-- A basic string after its opening quotation mark. -/
def basicBody : List Char → Option (List Char × List Char)
  | [] => none
  | '"' :: rest => some ([], rest)
  | '\\' :: 'u' :: a :: b :: c :: d :: rest =>
    match ofCode? [a, b, c, d] with
    | some character => prepend [character] (basicBody rest)
    | none => none
  | '\\' :: 'U' :: a :: b :: c :: d :: e :: f :: g :: h :: rest =>
    match ofCode? [a, b, c, d, e, f, g, h] with
    | some character => prepend [character] (basicBody rest)
    | none => none
  | '\\' :: escape :: rest =>
    match shortEscape? escape with
    | some character => prepend [character] (basicBody rest)
    | none => none
  | character :: rest =>
    if character != '\\' && isVisible character then
      prepend [character] (basicBody rest)
    else none

/-- A literal string after its opening apostrophe. -/
def literalBody : List Char → Option (List Char × List Char)
  | [] => none
  | '\x27' :: rest => some ([], rest)
  | character :: rest =>
    if isVisible character then prepend [character] (literalBody rest) else none

/-! ### Strings over several lines -/

/-- Whether only blanks stand before the next line end. -/
def endsLine (text : List Char) : Bool :=
  (skipInlineBlanks text).head? == some '\n'

/-- A basic string over several lines, after its opening marks. One or two marks in a row belong
to the string, also right before the three that close it. A backslash at the end of a line skips
to the next character that is neither blank nor a line end. -/
def basicLines (skipping : Bool) : List Char → Option (List Char × List Char)
  | [] => none
  | '"' :: '"' :: '"' :: '"' :: '"' :: rest => some (['"', '"'], rest)
  | '"' :: '"' :: '"' :: '"' :: rest => some (['"'], rest)
  | '"' :: '"' :: '"' :: rest => some ([], rest)
  | '\\' :: 'u' :: a :: b :: c :: d :: rest =>
    match ofCode? [a, b, c, d] with
    | some character => prepend [character] (basicLines false rest)
    | none => none
  | '\\' :: 'U' :: a :: b :: c :: d :: e :: f :: g :: h :: rest =>
    match ofCode? [a, b, c, d, e, f, g, h] with
    | some character => prepend [character] (basicLines false rest)
    | none => none
  | '\\' :: escape :: rest =>
    match shortEscape? escape with
    | some character => prepend [character] (basicLines false rest)
    | none => if endsLine (escape :: rest) then basicLines true (escape :: rest) else none
  | character :: rest =>
    if skipping && (isInlineBlank character || character == '\n') then basicLines true rest
    else if character == '\n' || (character != '\\' && isVisible character) then
      prepend [character] (basicLines false rest)
    else none

/-- A literal string over several lines, after its opening marks. One or two marks in a row
belong to the string, also right before the three that close it. -/
def literalLines : List Char → Option (List Char × List Char)
  | [] => none
  | '\x27' :: '\x27' :: '\x27' :: '\x27' :: '\x27' :: rest => some (['\x27', '\x27'], rest)
  | '\x27' :: '\x27' :: '\x27' :: '\x27' :: rest => some (['\x27'], rest)
  | '\x27' :: '\x27' :: '\x27' :: rest => some ([], rest)
  | character :: rest =>
    if character == '\n' || isVisible character then
      prepend [character] (literalLines rest)
    else none

/-- The text without a line end at its start. -/
def dropLineEnd : List Char → List Char
  | '\n' :: rest => rest
  | text => text

/-- A string of any of the four forms. -/
def string? : List Char → Option (String × List Char)
  | '"' :: '"' :: '"' :: rest =>
    (basicLines false (dropLineEnd rest)).map fun (body, after) => (String.ofList body, after)
  | '\x27' :: '\x27' :: '\x27' :: rest =>
    (literalLines (dropLineEnd rest)).map fun (body, after) => (String.ofList body, after)
  | '"' :: rest => (basicBody rest).map fun (body, after) => (String.ofList body, after)
  | '\x27' :: rest => (literalBody rest).map fun (body, after) => (String.ofList body, after)
  | _ => none

end Wayfinder.Toml
