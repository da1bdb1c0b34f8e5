/-
X86Gloss/Diagnostic/Notice.lean

The notices of the command line: messages with a fixed wording around a few values, each with
a piece of advice. A notice can also be looked up by its key and filled from named values.
-/
import X86Gloss.Diagnostic
import X86Gloss.Text.Quoted

namespace X86Gloss

/-- A message with a fixed wording and the values that it shows. -/
inductive Notice where
  /-- The input names no bytes. -/
  | invalidHex (text : Value)
  /-- No instruction could be decoded at an address. -/
  | decodeFailed (address : Int)
  /-- The statement at an address is longer than any buffer. -/
  | capacityExhausted (address : Int) (capacity : Value)
  /-- The size of a buffer is out of bounds. -/
  | invalidCapacity (maximum capacity : Value)
deriving DecidableEq

/-- Why a notice could not be filled. -/
inductive Notice.Fault where
  /-- A value that the wording needs was not given. -/
  | missing (name : String)
  /-- An address was given as text. -/
  | notANumber
deriving DecidableEq

namespace Notice

/-- A value as a message quotes it: a text between quotes, all else as it is. -/
def quote : Value → String
  | .text value => quoted value
  | value => value.shown

/-- The wording with its values. -/
def message : Notice → String
  | .invalidHex text => "Input is not a valid hex byte string: " ++ quote text
  | .decodeFailed address =>
    "Could not decode an instruction at address " ++ Numeral.lowerHex address
  | .capacityExhausted address capacity =>
    "Translation at " ++ Numeral.lowerHex address ++ " does not fit into "
      ++ capacity.shown ++ " bytes"
  | .invalidCapacity maximum capacity =>
    "Buffer capacity must be between 1 and " ++ maximum.shown ++ ", got " ++ capacity.shown

/-- The advice that goes with the notice. -/
def suggestion : Notice → String
  | .invalidHex _ => "Pass instruction bytes as hex, e.g. '89d8' or '89 d8'."
  | .decodeFailed _ => "Check the --arch option and the instruction bytes."
  | .capacityExhausted _ _ => "Raise --capacity."
  | .invalidCapacity _ _ => "Pass a positive --capacity value."

/-- The notice as a report. -/
def report (notice : Notice) (category : Category) (severity : Severity) (context : Context) :
    Report :=
  { problem := .general category notice.message
    severity
    context
    suggestion := some notice.suggestion }

/-- A named value. -/
def value (values : List (String × Value)) (name : String) : Except Fault Value :=
  match values.lookup name with
  | some value => .ok value
  | none => .error (.missing name)

/-- A named value that has to be a number. -/
def number (values : List (String × Value)) (name : String) : Except Fault Int :=
  match value values name with
  | .ok (.number n) => .ok n
  | .ok _ => .error .notANumber
  | .error fault => .error fault

/-- The notice of a key, filled in the order of its wording; `none` if no notice has the key. -/
def ofKey? (key : String) (values : List (String × Value)) : Option (Except Fault Notice) :=
  match key with
  | "invalid_hex" => some do
    return .invalidHex (← value values "text")
  | "decode_failed" => some do
    return .decodeFailed (← number values "address")
  | "capacity_exhausted" => some do
    let address ← number values "address"
    return .capacityExhausted address (← value values "capacity")
  | "invalid_capacity" => some do
    let maximum ← value values "maximum"
    return .invalidCapacity maximum (← value values "capacity")
  | _ => none

/-- The report of a key. An unknown key is itself a problem, an internal one. -/
def compose (key : String) (values : List (String × Value)) (category : Category)
    (severity : Severity) (context : Context) : Except Fault Report :=
  match ofKey? key values with
  | some notice? => notice?.map fun notice => notice.report category severity context
  | none =>
    .ok
      { problem := .general .internal ("Unknown error: " ++ key)
        severity
        context
        suggestion := none }

end Notice

end X86Gloss
