/-
This file is the program as it runs: it reads the configuration file, draws stamps, and carries a
session on line by line, writing each answer before it reads the next line. What is read as a
line, what is answered and how the program ends is decided elsewhere.
-/
import Std.Time.DateTime.Timestamp
import Wayfinder.Program

namespace Wayfinder.Main

/-- The bytes of a file, if it can be read. -/
def readFile (path : String) : IO (Option (List UInt8)) := do
  try
    return some (← IO.FS.readBinFile path).toList
  catch _ => return none

/-- A stamp drawn at random, now. -/
def drawStamp : IO Stamp := do
  let bytes ← IO.getRandomBytes 16
  let bits := bytes.toList.foldl (fun number byte => 256 * number + byte.toNat) 0
  let nanoseconds := (← Std.Time.Timestamp.now).toNanosecondsSinceUnixEpoch.val
  return ⟨Uuid.ofRandomBits (BitVec.ofNat 128 bits),
    ⟨nanoseconds / 1000000000, (nanoseconds % 1000000000).toNat⟩⟩

/-- A supply whose next stamp is drawn now. No command draws more than one. -/
def drawSupply : IO StampSupply := do
  let stamp ← drawStamp
  return { stamp := fun _ => stamp }

/-- Print how the program ends. -/
def report (outcome : Program.Outcome) : IO UInt32 := do
  IO.print outcome.output
  if let some complaint := outcome.complaint then
    IO.eprintln complaint
  return UInt32.ofNat outcome.exitCode

/-- The bytes of the input up to the next line feed, or up to its end. -/
partial def readUpToLineFeed (input : IO.FS.Stream) (before : List UInt8) : IO (List UInt8) := do
  match (← input.read 1).toList with
  | [] => return before.reverse
  | byte :: _ =>
    if byte = Session.lineFeed then return (byte :: before).reverse
    else readUpToLineFeed input (byte :: before)

/-- Carry a session on until it ends. Each line is taken alone, on the shell that the one before
has left. -/
partial def converse (input output : IO.FS.Stream) (shell : Shell) : IO UInt32 := do
  match Session.lines (← readUpToLineFeed input []) with
  | [] => report (Program.conclude (Session.runLines shell []))
  | line :: _ =>
    match Session.turn (.start { shell with supply := ← drawSupply }) line with
    | .goesOn progress =>
      output.putStr progress.output
      output.flush
      converse input output progress.shell
    | .ends transcript => report (Program.conclude transcript)

end Wayfinder.Main

/-- Run the program with its arguments. -/
def main (arguments : List String) : IO UInt32 := do
  let contents ← match Wayfinder.Program.configFile? arguments with
    | some path => Wayfinder.Main.readFile path
    | none => pure none
  match Wayfinder.Program.plan arguments (fun _ => contents) (← Wayfinder.Main.drawSupply) with
  | .finish outcome => Wayfinder.Main.report outcome
  | .converse shell => Wayfinder.Main.converse (← IO.getStdin) (← IO.getStdout) shell
