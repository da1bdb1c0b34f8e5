/-
X86Gloss/Disassembly.lean

What a disassembler reports. The library has no disassembler of its own: it takes the
instructions that one found, in the disassembler's spelling, and what went wrong in it.
-/
namespace X86Gloss

/-- The two decoding modes. -/
inductive Architecture where
  | x86
  | x86_64
deriving DecidableEq

namespace Architecture

/-- The name of a mode. -/
def name : Architecture → String
  | .x86 => "x86"
  | .x86_64 => "x86_64"

/-- All modes. -/
def all : List Architecture := [.x86, .x86_64]

/-- The mode with a name. -/
def ofName? (text : String) : Option Architecture := all.find? (·.name = text)

/-- The width of an address in bits. -/
def bits : Architecture → Nat
  | .x86 => 32
  | .x86_64 => 64

/-- The mode that is assumed unless another is asked for. -/
def standard : Architecture := .x86_64

end Architecture

/-- An operand as the disassembler reports it. Registers go by name, an absent one has none. -/
inductive RawOperand where
  | register (name : Option String)
  | immediate (value : Int)
  | memory (segment base index : Option String) (scale displacement : Int)
  /-- An operand of a type that has no counterpart here, with the number of the type. -/
  | unsupported (type : Int)
deriving DecidableEq

/-- An instruction as the disassembler reports it. -/
structure RawInstruction where
  mnemonic : String
  operandText : String
  size : Int
  address : Int
  isJump : Bool
  isCall : Bool
  operands : List RawOperand
deriving DecidableEq

/-- The assembler text of an instruction. -/
def RawInstruction.assembly (raw : RawInstruction) : String :=
  if raw.operandText = "" then raw.mnemonic else raw.mnemonic ++ " " ++ raw.operandText

/-- A run of a disassembler: why it could not start, the instructions that it finds, and why it
fails after the last of them. -/
structure Disassembler where
  startFailure : Option String
  instructions : List RawInstruction
  endFailure : Option String
deriving DecidableEq

namespace Disassembler

/-- Whether reading stops before the end because `count` instructions were asked for. A count
that is not positive asks for all. -/
def stopsAt (disassembler : Disassembler) (count : Int) : Bool :=
  0 < count && count ≤ disassembler.instructions.length

/-- The instructions that are read. -/
def taken (disassembler : Disassembler) (count : Int) : List RawInstruction :=
  if 0 < count then disassembler.instructions.take count.toNat else disassembler.instructions

/-- The failure that is met after the instructions that are read. -/
def failure (disassembler : Disassembler) (count : Int) : Option String :=
  if disassembler.stopsAt count then none else disassembler.endFailure

end Disassembler

end X86Gloss
