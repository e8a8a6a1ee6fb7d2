/-
This file reads what stands between the tokens of a TOML text: blanks, comments and line ends. A
text is first brought to one kind of line end, so that the rest of the reader knows no carriage
return at all.
-/

namespace Wayfinder.Toml

/-- The text with a bare line feed for each line end. A carriage return anywhere else is not
allowed. -/
def unifyLineEnds : List Char → Option (List Char)
  | [] => some []
  | '\r' :: '\n' :: rest => (unifyLineEnds rest).map ('\n' :: ·)
  | '\r' :: _ => none
  | character :: rest => (unifyLineEnds rest).map (character :: ·)

/-- A blank inside a line. -/
def isInlineBlank (character : Char) : Bool :=
  character == ' ' || character == '\t'

/-- The text after any blanks of the line. -/
def skipInlineBlanks (text : List Char) : List Char :=
  text.dropWhile isInlineBlank

/-- A character that may stand in a comment or, as far as its quotes allow, in a string: any but
a control character of the first range, though the tab is allowed. -/
def isVisible (character : Char) : Bool :=
  character == '\t' || (0x20 ≤ character.toNat && character.toNat != 0x7f)

/-- The text after a comment, if there is one at its start. -/
def skipComment : List Char → List Char
  | '#' :: rest => rest.dropWhile isVisible
  | text => text

/-- The text after the end of a line, which is a line feed or the end of the text. -/
def lineEnd? : List Char → Option (List Char)
  | [] => some []
  | '\n' :: rest => some rest
  | _ => none

/-- The text after the rest of a line, on which only blanks and a comment may stand. -/
def restOfLine? (text : List Char) : Option (List Char) :=
  lineEnd? (skipComment (skipInlineBlanks text))

/-- The text after any blanks, comments and line ends. The fuel bounds the number of lines and is
never short when it is the length of the text. -/
def skipLines : Nat → List Char → List Char
  | 0, text => text
  | fuel + 1, text =>
    match skipComment (skipInlineBlanks text) with
    | '\n' :: rest => skipLines fuel rest
    | rest => rest

end Wayfinder.Toml
