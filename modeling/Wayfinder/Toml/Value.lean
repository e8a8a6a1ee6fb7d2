/-
This file reads keys and values of a TOML text. Lists may go over several lines; a table that is
written inside a value stands on one line and is finished with it. Keys and values nest up to a
fixed depth.
-/
import Wayfinder.Toml.Moment
import Wayfinder.Toml.Number
import Wayfinder.Toml.Table

namespace Wayfinder.Toml

/-- Neither a key nor a value goes this deep. -/
def depthLimit : Nat := 80

/-! ### Keys -/

/-- A character of a key without quotes. -/
def isBareKeyCharacter (character : Char) : Bool :=
  character.isAlphanum || character == '_' || character == '-'

/-- One name of a key. -/
def keyName? (text : List Char) : Option (String × List Char) :=
  match text with
  | '"' :: rest => (basicBody rest).map fun (name, after) => (String.ofList name, after)
  | '\x27' :: rest => (literalBody rest).map fun (name, after) => (String.ofList name, after)
  | _ =>
    let name := text.takeWhile isBareKeyCharacter
    if name.isEmpty then none else some (String.ofList name, text.drop name.length)

/-- The names of a dotted key, with blanks around each, at least one. The fuel bounds the number
of names and is never short when it is the length of the text. -/
def keyNames? : Nat → List Char → Option (List String × List Char)
  | 0, _ => none
  | fuel + 1, text => do
    let (name, rest) ← keyName? (skipInlineBlanks text)
    match skipInlineBlanks rest with
    | '.' :: next =>
      let (later, after) ← keyNames? fuel next
      return (name :: later, after)
    | after => return ([name], after)

/-- A dotted key, as the names before the last one and the last one. -/
structure Key where
  path : List String
  name : String

/-- A key. -/
def key? (text : List Char) : Option (Key × List Char) := do
  let (names, rest) ← keyNames? (text.length + 1) text
  let name ← names.getLast?
  if names.length < depthLimit then some (⟨names.dropLast, name⟩, rest) else none

/-! ### Values -/

/-- The items of a list up to its closing bracket, given how an item is read. A comma may stand
after the last one. The fuel bounds the number of items and is never short when it is the length
of the text. -/
def items? (item? : List Char → Option (Datum × List Char)) :
    Nat → List Char → Option (List Datum × List Char)
  | 0, _ => none
  | fuel + 1, text =>
    match skipLines text.length text with
    | ']' :: after => some ([], after)
    | start => do
      let (item, rest) ← item? start
      match skipLines rest.length rest with
      | ',' :: next =>
        let (later, after) ← items? item? fuel next
        return (item :: later, after)
      | ']' :: after => return ([item], after)
      | _ => none

/-- The members of a table up to its closing brace, at least one, given how a value is read. -/
def members? (value? : List Char → Option (Datum × List Char)) :
    Nat → Members → List Char → Option (Members × List Char)
  | 0, _, _ => none
  | fuel + 1, members, text => do
    let (key, rest) ← key? text
    let (datum, rest) ← value? (skipInlineBlanks (← expect? '=' rest))
    let extended ← members.assign key.path key.name datum
    match skipInlineBlanks rest with
    | ',' :: next => members? value? fuel extended next
    | '\x7d' :: after => return (extended, after)
    | _ => none

/-- A value, in which lists and tables nest no deeper than a given depth. -/
def value? (depth : Nat) (text : List Char) : Option (Datum × List Char) :=
  match text with
  | '"' :: _ => (string? text).map fun (string, rest) => (.text string, rest)
  | '\x27' :: _ => (string? text).map fun (string, rest) => (.text string, rest)
  | 't' :: 'r' :: 'u' :: 'e' :: rest => some (.bool true, rest)
  | 'f' :: 'a' :: 'l' :: 's' :: 'e' :: rest => some (.bool false, rest)
  | '[' :: rest =>
    match depth with
    | 0 => none
    | depth + 1 =>
      (items? (value? depth) (rest.length + 1) rest).map fun (items, after) =>
        (.list items, after)
  | '\x7b' :: rest =>
    match depth, skipInlineBlanks rest with
    | 0, _ => none
    | _ + 1, '\x7d' :: after => some (.record [], after)
    | depth + 1, start =>
      (members? (value? depth) (start.length + 1) [] start).map fun (members, after) =>
        (.record (membersToData members), after)
  | _ => moment? text <|> number? text

end Wayfinder.Toml
