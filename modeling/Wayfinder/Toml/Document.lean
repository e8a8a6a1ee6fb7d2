/-
This file reads a TOML text as a whole: its headers, its bindings of keys to values, and the
table that they build up. A text that breaks a rule anywhere is refused as a whole.
-/
import Wayfinder.Datum.Reading
import Wayfinder.Toml.Value

namespace Wayfinder.Toml

/-- In TOML a list of fields may be longer than the record, and an alternative that carries
nothing carries an empty table or an empty list. -/
def leniency : Datum.Leniency where
  surplusItems := true
  carriesNothing
    | .record [] => true
    | .list [] => true
    | _ => false

/-- What has been read of a text: all tables so far, and the header whose table is being
filled. -/
structure Progress where
  root : Members
  header : List String

namespace Progress

/-- Nothing has been read: there is no table but the outermost. -/
def start : Progress where
  root := []
  header := []

/-- Go on with the table of a header. -/
def openTable (progress : Progress) (key : Key) : Option Progress :=
  (progress.root.declare key.path key.name).map fun root => ⟨root, key.path ++ [key.name]⟩

/-- Go on with a new table in the list of a header. -/
def openItem (progress : Progress) (key : Key) : Option Progress :=
  (progress.root.declareItem key.path key.name).map fun root => ⟨root, key.path ++ [key.name]⟩

/-- Bind a key in the table that is being filled. -/
def bind (progress : Progress) (key : Key) (datum : Datum) : Option Progress :=
  (progress.root.within progress.header fun members =>
    members.assign key.path key.name datum).map fun root => { progress with root := root }

end Progress

/-- Read one line, or one binding that goes over several lines. -/
def line? (progress : Progress) (text : List Char) : Option (Progress × List Char) :=
  match text with
  | '[' :: '[' :: rest => do
    let (key, rest) ← key? rest
    let after ← restOfLine? (← expect? ']' (← expect? ']' rest))
    return (← progress.openItem key, after)
  | '[' :: rest => do
    let (key, rest) ← key? rest
    let after ← restOfLine? (← expect? ']' rest)
    return (← progress.openTable key, after)
  | _ => do
    let (key, rest) ← key? text
    let (datum, rest) ← value? (depthLimit - 1) (skipInlineBlanks (← expect? '=' rest))
    let after ← restOfLine? rest
    return (← progress.bind key datum, after)

/-- Read lines up to the end of the text. The fuel bounds the number of lines and is never short
when it is the length of the text. -/
def lines? : Nat → Progress → List Char → Option Progress
  | 0, _, _ => none
  | fuel + 1, progress, text =>
    match skipLines text.length text with
    | [] => some progress
    | start => do
      let (extended, rest) ← line? progress start
      lines? fuel extended rest

/-- The text without a byte order mark at its start. -/
def dropByteOrderMark : List Char → List Char
  | '\ufeff' :: rest => rest
  | text => text

/-- The datum that a TOML text stands for. -/
def read (text : String) : Option Datum := do
  let characters ← unifyLineEnds (dropByteOrderMark text.toList)
  let progress ← lines? (characters.length + 1) Progress.start characters
  return .record (membersToData progress.root)

end Wayfinder.Toml
