/-
This file writes a text in double quotes so that a reader of a message can tell exactly which
text was meant: quotes and backslashes are escaped, and every character that cannot be seen on
its own is written as its code.
-/
import Wayfinder.Text.Invisible
import Wayfinder.Text.Extending

namespace Wayfinder.Text

/-- The code of a character in braces, in hexadecimal digits without padding. -/
def codeForm (character : Char) : List Char :=
  '\\' :: 'u' :: '\x7b' :: Nat.toDigits 16 character.toNat ++ ['\x7d']

/-- The two half-width sound marks. They extend the letter before them as Unicode counts
letters, but each is drawn in a cell of its own. -/
def isSoundMark (character : Char) : Bool :=
  character = '\uff9e' || character = '\uff9f'

/-- A character is unclear when it cannot be seen, or merges with the character before it. -/
def isUnclear (character : Char) : Bool :=
  isInvisible character || (isExtending character && !isSoundMark character)

/-- How one character is written between quotes. -/
def quotedForm (character : Char) : List Char :=
  if character = '"' then ['\\', '"']
  else if character = '\\' then ['\\', '\\']
  else if character = '\n' then ['\\', 'n']
  else if character = '\r' then ['\\', 'r']
  else if character = '\t' then ['\\', 't']
  else if character = '\x00' then ['\\', '0']
  else if isUnclear character then codeForm character
  else [character]

/-- A text in double quotes, with every character in its quoted form. -/
def quote (text : String) : String :=
  String.ofList ('"' :: text.toList.flatMap quotedForm ++ ['"'])

end Wayfinder.Text
