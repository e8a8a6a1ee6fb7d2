/-
This file reads the commands of a session. A command is one line: a verb and, for the verbs that
go somewhere, a link. A line that starts with a slash is itself a link to go to. A verb that
takes no link ignores what follows it.
-/
import Wayfinder.Text.Blank

namespace Wayfinder

/-- A command of a session. -/
inductive Command where
  | navigate (link : String)
  | replace (link : String)
  | back
  | forward
  | current
  | routes
  | quit
  deriving DecidableEq, Repr

/-- Why a line is no command. -/
inductive CommandError where
  | needsPath (verb : String)
  | unknown (verb : String)
  deriving DecidableEq, Repr

/-- Why a line is no command, in words. -/
def CommandError.message : CommandError → String
  | needsPath verb => "`" ++ verb ++ "` needs a path"
  | unknown verb => "Unknown command: " ++ verb

namespace Command

/-- A command that takes a link, given the text after its verb. -/
def withLink (command : String → Command) (verb argument : String) :
    Except CommandError (Option Command) :=
  if argument = "" then .error (.needsPath verb) else .ok (some (command argument))

/-- The command of a verb and the text after it. -/
def ofVerb (verb argument : String) : Except CommandError (Option Command) :=
  match verb with
  | "go" => withLink navigate verb argument
  | "navigate" => withLink navigate verb argument
  | "replace" => withLink replace verb argument
  | "back" => .ok (some back)
  | "forward" => .ok (some forward)
  | "current" => .ok (some current)
  | "routes" => .ok (some routes)
  | "quit" => .ok (some quit)
  | "exit" => .ok (some quit)
  | _ => .error (.unknown verb)

/-- The command on a line; a blank line holds none. -/
def parse (line : String) : Except CommandError (Option Command) :=
  match Text.trimmed line.toList with
  | [] => .ok none
  | '/' :: rest => .ok (some (navigate (String.ofList ('/' :: rest))))
  | characters =>
    let verb := characters.takeWhile fun character => !Text.isBlank character
    let argument := Text.trimmed (characters.drop verb.length)
    ofVerb (String.ofList verb) (String.ofList argument)

end Command

end Wayfinder
