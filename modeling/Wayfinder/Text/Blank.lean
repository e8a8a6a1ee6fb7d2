/-
This file says which characters are blank and what it means to trim a text. Every place where
space does not matter -- the ends of a link, the words of a command, a parameter that counts as
missing -- reads this one property.
-/

namespace Wayfinder.Text

/-- A character is blank when it has the Unicode property White_Space. -/
def isBlank (character : Char) : Bool :=
  let code := character.toNat
  (0x09 ≤ code && code ≤ 0x0d) || code == 0x20 || code == 0x85 || code == 0xa0 ||
    code == 0x1680 || (0x2000 ≤ code && code ≤ 0x200a) || code == 0x2028 || code == 0x2029 ||
    code == 0x202f || code == 0x205f || code == 0x3000

/-- The characters without the blank ones at the end. -/
def dropTrailingBlanks (characters : List Char) : List Char :=
  (characters.reverse.dropWhile isBlank).reverse

/-- The characters without the blank ones at either end. -/
def trimmed (characters : List Char) : List Char :=
  dropTrailingBlanks (characters.dropWhile isBlank)

/-- A text without the blank characters at either end. -/
def trim (text : String) : String :=
  String.ofList (trimmed text.toList)

end Wayfinder.Text
