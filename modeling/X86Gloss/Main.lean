/-
X86Gloss/Main.lean

The command line. It reads the arguments and, when they name no bytes, standard input; it
prints the listing, and the log with its time stamps on standard error. No disassembler is
linked in, so a run whose arguments and bytes are in order reports that there is none.
-/
import X86Gloss.CommandLine.Arguments
import X86Gloss.Run.Settings
import Std.Time

namespace X86Gloss

/-- The disassembler of a build that has none. -/
def noDisassembler : Disassembler := ⟨some "no disassembler is linked in", [], none⟩

/-- The time of a row, in universal time. -/
def timeStamp : IO String := do
  let time := Std.Time.DateTime.ofTimestampWithZone (← Std.Time.Timestamp.now) .UTC
  return time.toPlainDateTime.format "uuuu-MM-dd HH:mm:ss"

/-- Standard input to its end. -/
partial def readInput (stream : IO.FS.Stream) (text : String) : IO String := do
  let line ← stream.getLine
  if line.isEmpty then return text
  readInput stream (text ++ line)

/-- Runs with the settings and shows what the run leaves. -/
def runSettings (settings : Settings) : IO UInt32 := do
  let input ← if settings.hex.isSome then pure "" else readInput (← IO.getStdin) ""
  match settings.run input noDisassembler standardLimit with
  | .error _ => return 1
  | .ok exit =>
    IO.print exit.output
    let stamp ← timeStamp
    for row in exit.rows do
      IO.eprint (row.line stamp)
    IO.eprint exit.trace
    return UInt32.ofNat exit.code

end X86Gloss

/-- Reads the arguments; wrong ones end the program with code 2. -/
def main (arguments : List String) : IO UInt32 := do
  match X86Gloss.Invocation.ofArguments arguments with
  | .error fault =>
    IO.eprintln ("pseudocoder: error: " ++ fault.message)
    return 2
  | .ok .help =>
    IO.println ("usage: pseudocoder [-h] [--address ADDRESS] [--arch ARCH] "
      ++ "[--capacity CAPACITY] [--debug] [hex]")
    return 0
  | .ok (.run settings) => X86Gloss.runSettings settings
