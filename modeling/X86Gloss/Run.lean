/-
X86Gloss/Run.lean

A run of the command line: the bytes are read from the options or from standard input,
decoded, and listed record by record.

A run fails when the capacity is out of bounds, the input names no bytes, decoding fails or
finds nothing, or a statement does not fit; the records before that one are listed. A run
that lists every record still fails when they do not account for all the bytes. Each failure
leaves one row for the failure and the exit code 1.
-/
import X86Gloss.CommandLine.Options
import X86Gloss.Console
import X86Gloss.Listing
import X86Gloss.Rule.Standard
import X86Gloss.Text.HexBytes

namespace X86Gloss

/-- What a run leaves: its exit code, its standard output, the rows that the log shows, and the
trace of a failure in debug mode. -/
structure Exit where
  code : Nat
  output : String
  rows : List Row
  trace : String
deriving DecidableEq

namespace Options

/-- The report of a capacity that is out of bounds. -/
def badCapacity (options : Options) (limit : Int) : Report :=
  let notice := Notice.invalidCapacity (.number limit) (.number options.capacity)
  { Report.of (.configuration notice.message) {} with suggestion := some notice.suggestion }

/-- The report of a text that names no bytes. -/
def badHex (text : String) (fault : HexBytes.Fault) : Diagnostic :=
  .causedBy ((Notice.invalidHex (.text (trimBlanks text))).report .input .error {})
    (.foreign ⟨"ValueError", fault.message⟩)

/-- The report that nothing could be decoded at an address. -/
def undecoded (address : Int) : Diagnostic :=
  .ofReport ((Notice.decodeFailed address).report .decoder .error {})

/-- The bytes to decode. The capacity is looked at first. -/
def code (options : Options) (input : String) (limit : Int) : Except Diagnostic (List UInt8) :=
  if 0 < options.capacity ∧ options.capacity ≤ limit then
    let text := options.hex.getD input
    match HexBytes.ofText text with
    | .ok bytes => .ok bytes
    | .error fault => .error (badHex text fault)
  else
    .error (.ofReport (options.badCapacity limit))

/-- The records of the bytes, of which there has to be one. -/
def records (options : Options) (disassembler : Disassembler) (code : List UInt8) :
    Except Diagnostic (List Record) :=
  match disassembler.start (.ok options.architecture) with
  | .error fault => .error fault.diagnostic
  | .ok _ =>
    match disassembler.decode code options.address 0 with
    | .error fault => .error fault.diagnostic
    | .ok [] => .error (undecoded options.address)
    | .ok records => .ok records

/-- The rows that decoding leaves. -/
def decodeRows (options : Options) (disassembler : Disassembler) (code : List UInt8) : List Row :=
  match disassembler.start (.ok options.architecture) with
  | .error _ => []
  | .ok _ => disassembler.decodeRows code 0

/-- The number of bytes that records account for. -/
def totalSize : List Record → Int
  | [] => 0
  | record :: records => record.size + totalSize records

/-- What is wrong after every record was listed: the records may not account for all bytes. -/
def shortfall (options : Options) (code : List UInt8) (records : List Record) :
    Option Diagnostic :=
  let size := totalSize records
  if size < code.length then some (undecoded (options.address + size)) else none

/-- The end of a run, with the output and the rows up to it. -/
def finish (options : Options) (output : String) (rows : List Row) (failure : Option Diagnostic) :
    Exit :=
  let (console, handler) := Console.fresh.get options.debug
  match failure with
  | none => ⟨0, output, console.admitted rows, ""⟩
  | some diagnostic =>
    let handled := handler.handle (.diagnosed diagnostic) {} false
    ⟨1, output, console.admitted (rows ++ [handled.row]), handled.trace⟩

/-- A run with a rule table. `limit` is the largest buffer that a statement is given. -/
def runWith (table : RuleTable) (options : Options) (input : String)
    (disassembler : Disassembler) (limit : Int) : Except NotAscii Exit :=
  match options.code input limit with
  | .error diagnostic => .ok (options.finish "" [] (some diagnostic))
  | .ok code =>
    let rows := options.decodeRows disassembler code
    match options.records disassembler code with
    | .error diagnostic => .ok (options.finish "" rows (some diagnostic))
    | .ok records =>
      let listing := Listing.ofRecords table limit.toNat options.capacity.toNat records
      let finish := options.finish listing.text (rows ++ listing.rows)
      match listing.failure with
      | some .notAscii => .error {}
      | some (.reported diagnostic) => .ok (finish (some diagnostic))
      | none => .ok (finish (options.shortfall code records))

/-- A run with the standard rules. -/
def run (options : Options) (input : String) (disassembler : Disassembler) (limit : Int) :
    Except NotAscii Exit :=
  runWith .standard options input disassembler limit

end Options

end X86Gloss
