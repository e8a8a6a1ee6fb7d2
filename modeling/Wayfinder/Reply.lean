/-
This file defines what a session answers to a command, and carries commands out on a shell. An
answer is written as one line of JSON: a screen as it is, and anything else as a record whose
only member says what it is.
-/
import Wayfinder.Command
import Wayfinder.Encoding.Screen
import Wayfinder.Json.Printer
import Wayfinder.Shell

namespace Wayfinder

/-- An answer to a command. -/
inductive Reply where
  | screen (screen : Screen)
  | routes (routes : List Declaration)
  | notice (text : String)
  | failure (text : String)
  deriving DecidableEq, Repr

namespace Reply

/-- An answer as plain data. -/
def toDatum : Reply → Datum
  | screen shown => shown.toDatum
  | routes declared => .record [("routes", .list (declared.map Declaration.toDatum))]
  | notice text => .record [("notice", .text text)]
  | failure text => .record [("error", .text text)]

/-- An answer as JSON on one line. -/
def json (reply : Reply) : String :=
  Json.print reply.toDatum

/-- What is written for an answer: its JSON, and the end of the line. -/
def line (reply : Reply) : String :=
  reply.json ++ "\n"

end Reply

namespace Shell

/-- The answer to a move, or a notice when the move is not possible. -/
def replyOr (shell : Shell) (notice : String) : Option (Screen × Shell) → Reply × Shell
  | some (screen, moved) => (.screen screen, moved)
  | none => (.notice notice, shell)

/-- Carry out a command. -/
def execute (shell : Shell) : Command → Reply × Shell
  | .navigate link =>
    let shown := shell.navigate link
    (.screen shown.1, shown.2)
  | .replace link =>
    let shown := shell.replace link
    (.screen shown.1, shown.2)
  | .back => shell.replyOr "Already at the oldest history entry" shell.back?
  | .forward => shell.replyOr "Already at the newest history entry" shell.forward?
  | .current =>
    match shell.current? with
    | some screen => (.screen screen, shell)
    | none => (.notice "History is empty", shell)
  | .routes => (.routes shell.table.declarations, shell)
  | .quit => (.notice "Session ended", shell)

end Shell

end Wayfinder
