/-
This file reads a configuration out of a file. Two things can go wrong: the file cannot be read
as text, or the text is no configuration. Either way the message names the file.
-/
import Wayfinder.Encoding.Config
import Wayfinder.Toml.Document

namespace Wayfinder

/-- Why a file gives no configuration. -/
inductive ConfigFileError where
  | unreadable (path : String)
  | malformed (path : String)
  deriving DecidableEq, Repr

/-- Why a file gives no configuration, in words. -/
def ConfigFileError.message : ConfigFileError → String
  | unreadable path => "Failed to read config: " ++ path
  | malformed path => "Failed to parse config: " ++ path

namespace Config

/-- The configuration that a TOML text stands for. -/
def ofToml? (text : String) : Option Config :=
  (Toml.read text).bind (ofDatum? Toml.leniency)

/-- The configuration in a file, given the path and the bytes of the file, if there are any. -/
def ofFile (path : String) (contents : Option (List UInt8)) : Except ConfigFileError Config :=
  match contents.bind fun bytes => String.fromUTF8? ⟨bytes.toArray⟩ with
  | none => .error (.unreadable path)
  | some text =>
    match ofToml? text with
    | none => .error (.malformed path)
    | some config => .ok config

/-- The configuration at a path, or the default one without a path. -/
def load (file : String → Option (List UInt8)) : Option String → Except ConfigFileError Config
  | none => .ok {}
  | some path => ofFile path (file path)

end Config

end Wayfinder
