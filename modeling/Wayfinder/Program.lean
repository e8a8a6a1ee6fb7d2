/-
This file says what the program does as a whole: from its arguments, the files it can read and
its input to what it prints and the code it exits with. With a path it shows one screen; without
one it runs a session over its input.
-/
import Wayfinder.CommandLine
import Wayfinder.ConfigFile
import Wayfinder.Session

namespace Wayfinder.Program

/-- Why the program cannot go on. -/
inductive Failure where
  | config (error : ConfigFileError)
  | shell (error : ShellError)
  | input
  deriving DecidableEq, Repr

/-- Why the program cannot go on, in words. -/
def Failure.message : Failure → String
  | config error => error.message
  | shell _ => "Failed to build navigation shell"
  | input => "Failed to read command"

/-- The shell that the options ask for. -/
def shell (options : CommandLine.Options) (file : String → Option (List UInt8))
    (supply : StampSupply) : Except Failure Shell :=
  match Config.load file options.config with
  | .error error => .error (.config error)
  | .ok config =>
    match Shell.standard config supply with
    | .error error => .error (.shell error)
    | .ok shell => .ok shell

/-- The screen of a link as JSON, laid out over lines if that is asked for. -/
def showScreen (shell : Shell) (link : String) (pretty : Bool) : String :=
  let datum := (shell.navigate link).1.toDatum
  (if pretty then Json.printPretty datum else Json.print datum) ++ "\n"

/-- How the program ends: its exit code, what it has printed, and what it says went wrong. -/
structure Outcome where
  exitCode : Nat
  output : String
  complaint : Option String
  deriving DecidableEq, Repr

/-- The first line of a text, without a carriage return at its end. -/
def firstLine (text : String) : String :=
  let line := text.toList.takeWhile (· ≠ '\n')
  String.ofList (if line.getLast? = some '\r' then line.dropLast else line)

/-- The first line of what the program says went wrong. A complaint goes over several lines when
the name of a file does. -/
def Outcome.headline (outcome : Outcome) : Option String :=
  outcome.complaint.map firstLine

/-- The end of a program that prints something and then cannot go on. -/
def failed (output : String) (failure : Failure) : Outcome where
  exitCode := 1
  output := output
  complaint := some ("Error: " ++ failure.message)

/-- How the program ends when its session does. -/
def conclude (transcript : Session.Transcript) : Outcome :=
  if transcript.failed then failed transcript.output .input else ⟨0, transcript.output, none⟩

/-- What the program does once it has read its arguments and the file that they name: it ends
with an outcome, or runs a session. -/
inductive Plan where
  | finish (outcome : Outcome)
  | converse (shell : Shell)

/-- The file that arguments ask for. -/
def configFile? (arguments : List String) : Option String :=
  match CommandLine.request arguments with
  | .run options => options.config
  | .help => none
  | .misuse _ => none

/-- What arguments ask the program to do. -/
def plan (arguments : List String) (file : String → Option (List UInt8)) (supply : StampSupply) :
    Plan :=
  match CommandLine.request arguments with
  | .help => .finish ⟨0, CommandLine.helpText, none⟩
  | .misuse reason => .finish ⟨2, "", some ("error: " ++ reason)⟩
  | .run options =>
    match shell options file supply with
    | .error failure => .finish (failed "" failure)
    | .ok shell =>
      match options.path with
      | some link => .finish ⟨0, showScreen shell link options.pretty, none⟩
      | none => .converse shell

/-- Run the program. -/
def run (arguments : List String) (file : String → Option (List UInt8)) (input : List UInt8)
    (supply : StampSupply) : Outcome :=
  match plan arguments file supply with
  | .finish outcome => outcome
  | .converse shell => conclude (Session.run shell input)

end Wayfinder.Program
