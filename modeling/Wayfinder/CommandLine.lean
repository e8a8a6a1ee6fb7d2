/-
This file reads the arguments of the program. An option that takes a value has it after an
equals sign, right after its letter, or as the next argument, unless that argument itself looks
like an option. Nothing may be given twice, and there are no other arguments.
-/

namespace Wayfinder.CommandLine

/-- What the arguments ask for. -/
structure Options where
  config : Option String := none
  path : Option String := none
  pretty : Bool := false
  jsonLogs : Bool := false
  deriving DecidableEq, Repr

/-- What the program is to do. -/
inductive Request where
  | run (options : Options)
  | help
  | misuse (reason : String)
  deriving DecidableEq, Repr

/-- An option that takes a value. -/
inductive Setting where
  | config
  | path
  deriving DecidableEq, Repr

/-- An option that takes no value. -/
inductive Flag where
  | pretty
  | jsonLogs
  | help
  deriving DecidableEq, Repr

/-- An argument, taken by itself. A value may stand in the same argument as its option. -/
inductive Argument where
  | setting (setting : Setting) (value : Option String)
  | flag (flag : Flag)
  | endOfOptions
  | unexpected
  deriving DecidableEq, Repr

/-! ### Single arguments -/

/-- The argument with a long name and, after an equals sign, a value. -/
def long (name : String) (value : Option String) : Argument :=
  match name, value with
  | "config", _ => .setting .config value
  | "path", _ => .setting .path value
  | "pretty", none => .flag .pretty
  | "json-logs", none => .flag .jsonLogs
  | "help", none => .flag .help
  | _, _ => .unexpected

/-- The value that stands right after a letter, perhaps with an equals sign between. -/
def attached : List Char → Option String
  | [] => none
  | '=' :: value => some (String.ofList value)
  | value => some (String.ofList value)

/-- The argument of a text. -/
def argument (text : String) : Argument :=
  match text.toList with
  | ['-', '-'] => .endOfOptions
  | '-' :: '-' :: rest =>
    let name := String.ofList (rest.takeWhile (· != '='))
    match rest.dropWhile (· != '=') with
    | [] => long name none
    | _ :: value => long name (some (String.ofList value))
  | '-' :: 'c' :: rest => .setting .config (attached rest)
  | '-' :: 'p' :: rest => .setting .path (attached rest)
  | '-' :: 'h' :: _ => .flag .help
  | _ => .unexpected

/-- Whether a text can be the value of the option before it. -/
def isValue (text : String) : Bool :=
  match text.toList with
  | ['-'] => true
  | '-' :: _ => false
  | _ => true

/-! ### All arguments -/

/-- Set the value of an option that has none yet. -/
def Options.set? (options : Options) (setting : Setting) (value : String) : Option Options :=
  match setting with
  | .config => if options.config.isSome then none else some { options with config := some value }
  | .path => if options.path.isSome then none else some { options with path := some value }

/-- Read the arguments from left to right, with the options found so far. -/
def requestFrom (options : Options) : List String → Request
  | [] => .run options
  | text :: rest =>
    match argument text with
    | .endOfOptions => if rest.isEmpty then .run options else .misuse "unexpected argument"
    | .flag .help => .help
    | .flag .pretty =>
      if options.pretty then .misuse "--pretty is given twice"
      else requestFrom { options with pretty := true } rest
    | .flag .jsonLogs =>
      if options.jsonLogs then .misuse "--json-logs is given twice"
      else requestFrom { options with jsonLogs := true } rest
    | .setting setting (some value) =>
      match options.set? setting value with
      | some extended => requestFrom extended rest
      | none => .misuse "an option is given twice"
    | .setting setting none =>
      match rest with
      | value :: later =>
        if isValue value then
          match options.set? setting value with
          | some extended => requestFrom extended later
          | none => .misuse "an option is given twice"
        else .misuse "an option lacks its value"
      | [] => .misuse "an option lacks its value"
    | .unexpected => .misuse "unexpected argument"

/-- What the arguments ask the program to do. -/
def request (arguments : List String) : Request :=
  requestFrom {} arguments

/-- The text that explains the arguments. -/
def helpText : String :=
  "TradeDesk navigation shell - resolves paths to pages and renders them as JSON\n\n" ++
  "Usage: tradedesk [OPTIONS]\n\n" ++
  "Options:\n" ++
  "  -c, --config <CONFIG>  " ++
    "Path to configuration file (built-in defaults when omitted)\n" ++
  "  -p, --path <PATH>      " ++
    "Render a single path and exit instead of reading commands from stdin\n" ++
  "      --pretty           Pretty-print the output JSON (single-path mode only)\n" ++
  "      --json-logs        Emit logs as JSON lines\n" ++
  "  -h, --help             Print help\n"

end Wayfinder.CommandLine
