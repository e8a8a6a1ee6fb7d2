/-
This file runs a session: it reads the lines of an input in order, answers each command with one
line, and stops at the end of the input, at the command to quit, or at a line that is not valid
text. Blank lines are passed over, and a line that is no command is answered with what is wrong.

A session that waits for its next line can also be cancelled from outside. Nothing here says when
that happens: such a session ends as at the end of its input, so it is the session over the lines
that it has read until then.
-/
import Wayfinder.Reply

namespace Wayfinder.Session

/-! ### Lines -/

/-- The byte that ends a line. -/
def lineFeed : UInt8 := 10

/-- The byte that may stand before the end of a line. -/
def carriageReturn : UInt8 := 13

/-- A line without the carriage return at its end. -/
def dropCarriageReturn (line : List UInt8) : List UInt8 :=
  if line.getLast? = some carriageReturn then line.dropLast else line

/-- The lines that given pieces between line feeds make up. The last piece is a line only if it
is not empty, and a carriage return counts as part of a line end only before a line feed. -/
def linesOfPieces : List (List UInt8) → List (List UInt8)
  | [] => []
  | [[]] => []
  | [last] => [last]
  | piece :: next :: rest => dropCarriageReturn piece :: linesOfPieces (next :: rest)

/-- The lines of an input. -/
def lines (input : List UInt8) : List (List UInt8) :=
  linesOfPieces (input.splitOn lineFeed)

/-- The text of a line, unless the bytes are not UTF-8. -/
def decodeLine (line : List UInt8) : Option String :=
  String.fromUTF8? ⟨line.toArray⟩

/-- What a session makes of a line: nothing if it is not valid text, else the command on it. -/
def reading (line : List UInt8) : Option (Except CommandError (Option Command)) :=
  (decodeLine line).map Command.parse

/-! ### Answers -/

/-- What a session has done so far: its answers in order, the text that it has written, how many
answers that is, and the shell that the commands were carried out on. -/
structure Progress where
  replies : List Reply
  output : String
  count : Nat
  shell : Shell

/-- A session that has done nothing yet. -/
def Progress.start (shell : Shell) : Progress where
  replies := []
  output := ""
  count := 0
  shell := shell

/-- A session after one more answer, which is written and counted at once. -/
def Progress.answered (progress : Progress) (reply : Reply) (after : Shell) : Progress where
  replies := progress.replies ++ [reply]
  output := progress.output ++ reply.line
  count := progress.count + 1
  shell := after

/-- What a session leaves behind: all that it has done, and whether it failed at a line that is
not valid text. -/
structure Transcript extends Progress where
  failed : Bool

/-- Where a session stands after a line. -/
inductive Turn where
  | goesOn (progress : Progress)
  | ends (transcript : Transcript)

/-- Take one line. -/
def turn (progress : Progress) (line : List UInt8) : Turn :=
  match reading line with
  | none => .ends ⟨progress, true⟩
  | some (.ok none) => .goesOn progress
  | some (.ok (some .quit)) => .ends ⟨progress, false⟩
  | some (.ok (some command)) =>
    let answer := progress.shell.execute command
    .goesOn (progress.answered answer.1 answer.2)
  | some (.error error) =>
    .goesOn (progress.answered (.failure error.message) progress.shell)

/-- Go on with a session over lines. -/
def resume (progress : Progress) : List (List UInt8) → Transcript
  | [] => ⟨progress, false⟩
  | line :: rest =>
    match turn progress line with
    | .goesOn next => resume next rest
    | .ends transcript => transcript

/-- Run a session over lines. -/
def runLines (shell : Shell) (lines : List (List UInt8)) : Transcript :=
  resume (.start shell) lines

/-- Run a session over an input. -/
def run (shell : Shell) (input : List UInt8) : Transcript :=
  runLines shell (lines input)

end Wayfinder.Session
