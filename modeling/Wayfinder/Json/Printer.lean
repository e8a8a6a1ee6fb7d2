/-
This file prints plain data as JSON text: compactly on one line, or laid out over lines with two
spaces for each level. A string is printed with the fewest escapes that keep the text on one
line: the quotation mark, the backslash and the characters below the space.
-/
import Wayfinder.Datum

namespace Wayfinder.Json

/-! ### Strings -/

/-- A code below 256 as two hexadecimal digits. -/
def twoHexDigits (code : Nat) : List Char :=
  [Nat.digitChar (code / 16), Nat.digitChar (code % 16)]

/-- How one character is printed inside a string. -/
def escaped (character : Char) : List Char :=
  if character = '"' then ['\\', '"']
  else if character = '\\' then ['\\', '\\']
  else if character = '\x08' then ['\\', 'b']
  else if character = '\x0c' then ['\\', 'f']
  else if character = '\n' then ['\\', 'n']
  else if character = '\r' then ['\\', 'r']
  else if character = '\t' then ['\\', 't']
  else if character.toNat < 0x20 then '\\' :: 'u' :: '0' :: '0' :: twoHexDigits character.toNat
  else [character]

/-- A string in its quotation marks. -/
def string (text : String) : List Char :=
  '"' :: text.toList.flatMap escaped ++ ['"']

/-! ### The compact form -/

mutual

/-- A datum on one line, without spaces. -/
def compact : Datum → List Char
  | .null => ['n', 'u', 'l', 'l']
  | .bool true => ['t', 'r', 'u', 'e']
  | .bool false => ['f', 'a', 'l', 's', 'e']
  | .integer value => (toString value).toList
  | .real literal => literal.toList
  | .text value => string value
  | .list items => '[' :: compactItems items ++ [']']
  | .record members => '\x7b' :: compactMembers members ++ ['\x7d']

/-- The items of a list, with commas between them. -/
def compactItems : List Datum → List Char
  | [] => []
  | [item] => compact item
  | item :: next :: rest => compact item ++ ',' :: compactItems (next :: rest)

/-- The members of a record, with commas between them. -/
def compactMembers : List (String × Datum) → List Char
  | [] => []
  | [(name, datum)] => string name ++ ':' :: compact datum
  | (name, datum) :: next :: rest =>
    string name ++ ':' :: compact datum ++ ',' :: compactMembers (next :: rest)

end

/-! ### The laid-out form -/

/-- A new line at a level of nesting. -/
def newLine (level : Nat) : List Char :=
  '\n' :: List.replicate (2 * level) ' '

mutual

/-- A datum over lines: each item and each member on a line of its own, except that an empty
list or record stays on one line. -/
def layOut (level : Nat) : Datum → List Char
  | .list [] => ['[', ']']
  | .record [] => ['\x7b', '\x7d']
  | .list (item :: rest) =>
    '[' :: layOutItems (level + 1) (item :: rest) ++ newLine level ++ [']']
  | .record (member :: rest) =>
    '\x7b' :: layOutMembers (level + 1) (member :: rest) ++ newLine level ++ ['\x7d']
  | .null => compact .null
  | .bool value => compact (.bool value)
  | .integer value => compact (.integer value)
  | .real literal => compact (.real literal)
  | .text value => compact (.text value)

/-- The items of a list, each on a line of its own. -/
def layOutItems (level : Nat) : List Datum → List Char
  | [] => []
  | [item] => newLine level ++ layOut level item
  | item :: next :: rest =>
    newLine level ++ layOut level item ++ ',' :: layOutItems level (next :: rest)

/-- The members of a record, each on a line of its own, with a space after the colon. -/
def layOutMembers (level : Nat) : List (String × Datum) → List Char
  | [] => []
  | [(name, datum)] => newLine level ++ string name ++ ':' :: ' ' :: layOut level datum
  | (name, datum) :: next :: rest =>
    newLine level ++ string name ++ ':' :: ' ' :: layOut level datum ++
      ',' :: layOutMembers level (next :: rest)

end

/-- A datum as compact JSON text. -/
def print (datum : Datum) : String :=
  String.ofList (compact datum)

/-- A datum as JSON text laid out over lines. -/
def printPretty (datum : Datum) : String :=
  String.ofList (layOut 0 datum)

end Wayfinder.Json
