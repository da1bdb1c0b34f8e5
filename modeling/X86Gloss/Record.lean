/-
X86Gloss/Record.lean

Decoding: from what a disassembler reports to instructions that can be told as statements.

A record keeps the place, the size and the assembler text of an instruction next to its
operands. Decoding a stream gives all its records in order or the first failure: an operand
of an unsupported type, in the order of the instructions, comes before a failure of the
disassembler at the end of the stream. Register names that are unknown stand for no register
and leave a row each, up to the operand at which decoding fails.
-/
import X86Gloss.Disassembly.Spelling
import X86Gloss.Disassembly
import X86Gloss.Operand
import X86Gloss.Diagnostic

namespace X86Gloss

/-! ### Faults -/

/-- Why machine code could not be decoded. -/
inductive DecodeFault where
  /-- There is no mode of this name. -/
  | unsupportedArchitecture (name : String)
  /-- The disassembler did not start. -/
  | start (detail : String)
  /-- An operand has a type without counterpart. -/
  | unsupportedOperand (type : Int) (mnemonic : String) (address : Int)
  /-- The disassembler failed on the way; `address` is where it started. -/
  | stream (detail : String) (address : Int)
deriving DecidableEq

namespace DecodeFault

/-- A failure of the disassembler itself. -/
def ofDisassembler (detail : String) : Failure := .foreign ⟨"CsError", detail⟩

/-- The fault as it is reported. -/
def diagnostic : DecodeFault → Diagnostic
  | .unsupportedArchitecture name => .of (.decoding ("Unsupported architecture: " ++ name)) {}
  | .start detail =>
    .causedBy (.of (.decoding ("Failed to initialize Capstone: " ++ detail)) {})
      (ofDisassembler detail)
  | .unsupportedOperand type mnemonic address =>
    .of (.decoding ("Unsupported capstone operand type " ++ Numeral.decimal type))
      { mnemonic := some mnemonic, address := some address }
  | .stream detail address =>
    .causedBy (.of (.decoding ("Decoding failed: " ++ detail)) { address := some address })
      (ofDisassembler detail)

end DecodeFault

/-! ### Records -/

/-- A decoded instruction with its place, its size and its assembler text. -/
structure Record where
  address : Int
  size : Int
  assembly : String
  instruction : Instruction
  operands : List Operand
deriving DecidableEq

/-- The address behind the instruction. -/
def Record.nextAddress (record : Record) : Int := record.address + record.size

/-- How an instruction addresses memory: two only compute an address, two walk a bound table. -/
def MemoryKind.ofMnemonic : Mnemonic → MemoryKind
  | .lea | .bndmk => .address
  | .bndldx | .bndstx => .indirectBase
  | _ => .direct

namespace RawOperand

/-- Whether the operand is a constant. -/
def isImmediate : RawOperand → Bool
  | .immediate _ => true
  | _ => false

/-- The register names that the operand mentions, in the order in which they are looked up. -/
def names : RawOperand → List (Option String)
  | .register name => [name]
  | .memory segment base index _ _ => [segment, base, index]
  | _ => []

/-- The operand as an operand of an instruction. The target of a direct branch is absolute here
and becomes relative to the instruction. -/
def operand? (raw : RawInstruction) (relative : Bool) : RawOperand → Except DecodeFault Operand
  | .register name => .ok (.ofRegister (RegisterLookup.ofSpelling name).id)
  | .immediate value =>
    if relative then
      .ok (.ofImmediate ⟨(Numeral.word (value - raw.address) : Int), false, true⟩)
    else
      .ok (.ofImmediate ⟨value, value < 0, false⟩)
  | .memory segment base index scale displacement =>
    .ok (.ofMemory
      { kind := .ofMnemonic (.ofSpelling raw.mnemonic)
        segment := (RegisterLookup.ofSpelling segment).id
        base := (RegisterLookup.ofSpelling base).id
        index := (RegisterLookup.ofSpelling index).id
        scale
        displacement := if displacement = 0 then none else some displacement })
  | .unsupported type => .error (.unsupportedOperand type raw.mnemonic raw.address)

/-- Whether the operand has a counterpart. -/
def isSupported : RawOperand → Bool
  | .unsupported _ => false
  | _ => true

end RawOperand

namespace RawInstruction

/-- A direct branch has its target as its only operand. -/
def isDirectBranch (raw : RawInstruction) : Bool :=
  (raw.isJump || raw.isCall) && raw.operands.length = 1 && raw.operands.all RawOperand.isImmediate

/-- The operands, or the fault of the first that has no counterpart. -/
def operands? (raw : RawInstruction) : Except DecodeFault (List Operand) :=
  raw.operands.mapM (RawOperand.operand? raw raw.isDirectBranch)

/-- The instruction as a record. -/
def record? (raw : RawInstruction) : Except DecodeFault Record :=
  raw.operands?.map fun operands =>
    { address := raw.address
      size := raw.size
      assembly := raw.assembly
      instruction :=
        { mnemonic := .ofSpelling raw.mnemonic
          operandCount := operands.length
          length := raw.size }
      operands }

/-- Whether every operand has a counterpart. -/
def isSupported (raw : RawInstruction) : Bool := raw.operands.all RawOperand.isSupported

/-- The rows about unknown registers, up to the first operand without a counterpart. -/
def rows (raw : RawInstruction) : List Row :=
  (raw.operands.takeWhile RawOperand.isSupported).flatMap fun operand =>
    operand.names.flatMap fun name => (RegisterLookup.ofSpelling name).rows

end RawInstruction

/-- The rows about the instructions of a stream, up to the first that cannot be decoded. -/
def streamRows : List RawInstruction → List Row
  | [] => []
  | raw :: rest => raw.rows ++ if raw.isSupported then streamRows rest else []

/-! ### Decoding -/

namespace Disassembler

/-- A started disassembler knows the width of an address. The mode is looked at before the
disassembler is started; a name in its place is never a mode. -/
def start (disassembler : Disassembler) (mode : Except String Architecture) :
    Except DecodeFault Nat :=
  match mode, disassembler.startFailure with
  | .error name, _ => .error (.unsupportedArchitecture name)
  | .ok _, some detail => .error (.start detail)
  | .ok architecture, none => .ok architecture.bits

/-- The records of a stream that starts at an address. -/
def decodeStream (disassembler : Disassembler) (address count : Int) :
    Except DecodeFault (List Record) :=
  match (disassembler.taken count).mapM RawInstruction.record? with
  | .error fault => .error fault
  | .ok records =>
    match disassembler.failure count with
    | some detail => .error (.stream detail address)
    | none => .ok records

/-- The records of some code; without any code the disassembler is not asked. -/
def decode (disassembler : Disassembler) (code : List UInt8) (address count : Int) :
    Except DecodeFault (List Record) :=
  if code.isEmpty then .ok [] else disassembler.decodeStream address count

/-- The rows that decoding some code leaves. -/
def decodeRows (disassembler : Disassembler) (code : List UInt8) (count : Int) : List Row :=
  if code.isEmpty then [] else streamRows (disassembler.taken count)

/-- The first record of some code. -/
def decodeFirst (disassembler : Disassembler) (code : List UInt8) (address : Int) :
    Except DecodeFault (Option Record) :=
  (disassembler.decode code address 1).map List.head?

end Disassembler

end X86Gloss
