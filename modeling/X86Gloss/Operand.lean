/-
X86Gloss/Operand.lean

Decoded operands and instructions. An operand carries a kind and a payload for each kind; a
well formed one has the payload of its kind, but the others are representable, because a
caller may hand over any of them.
-/
import X86Gloss.Mnemonic

namespace X86Gloss

/-- How a memory operand addresses memory. -/
inductive MemoryKind where
  /-- A direct load or store. -/
  | direct
  /-- Bound table access through a base. -/
  | indirectBase
  /-- The address itself, with nothing loaded or stored. -/
  | address
  /-- No known kind, with the spelling that came in its place. -/
  | unknown (spelling : Option String)
deriving DecidableEq

/-- The spelling of the kind, when there is one. -/
def MemoryKind.name? : MemoryKind → Option String
  | .direct => some "mem"
  | .indirectBase => some "mib"
  | .address => some "agen"
  | .unknown spelling => spelling

/-- The kind with a spelling. -/
def MemoryKind.ofName? : Option String → MemoryKind
  | some "mem" => .direct
  | some "mib" => .indirectBase
  | some "agen" => .address
  | spelling => .unknown spelling

/-- A place in memory: a segment, a base, and a scaled index or a displacement. -/
structure Memory where
  kind : MemoryKind
  segment : Int
  base : Int
  index : Int
  scale : Int
  displacement : Option Int
deriving DecidableEq

/-- An index register is given by any identifier but 0. -/
def Memory.isIndexed (memory : Memory) : Bool := memory.index ≠ 0

/-- A constant. A relative one is an offset from the address of the instruction. -/
structure Immediate where
  value : Int
  isSigned : Bool
  isRelative : Bool
deriving DecidableEq

/-- A far pointer. -/
structure FarPointer where
  segment : Int
  offset : Int
deriving DecidableEq

/-- What an operand claims to be. -/
inductive OperandKind where
  | register
  | memory
  | immediate
  | pointer
deriving DecidableEq

/-- The kind as data spells it. -/
def OperandKind.name : OperandKind → String
  | .register => "register"
  | .memory => "memory"
  | .immediate => "immediate"
  | .pointer => "pointer"

/-- The kind with a spelling. -/
def OperandKind.ofName? : String → Option OperandKind
  | "register" => some .register
  | "memory" => some .memory
  | "immediate" => some .immediate
  | "pointer" => some .pointer
  | _ => none

/-- An operand: its kind, and a payload for every kind that has one. -/
structure Operand where
  kind : OperandKind
  register : Int := 0
  memory : Option Memory := none
  immediate : Option Immediate := none
  pointer : Option FarPointer := none
deriving DecidableEq

namespace Operand

/-- A register operand. -/
def ofRegister (id : Int) : Operand := { kind := .register, register := id }

/-- A memory operand. -/
def ofMemory (memory : Memory) : Operand := { kind := .memory, memory := some memory }

/-- An immediate operand. -/
def ofImmediate (immediate : Immediate) : Operand :=
  { kind := .immediate, immediate := some immediate }

/-- A pointer operand. -/
def ofPointer (pointer : FarPointer) : Operand := { kind := .pointer, pointer := some pointer }

/-- Memory and far pointers address memory. -/
def addressesMemory (operand : Operand) : Bool :=
  operand.kind = .memory || operand.kind = .pointer

end Operand

/-- A decoded instruction. `operandCount` counts hidden operands too, `shownCount` only those
that the assembler text shows, when it is known. -/
structure Instruction where
  mnemonic : Mnemonic
  operandCount : Int
  shownCount : Option Int := none
  length : Int := 0
deriving DecidableEq

/-- The number of operands that the assembler text shows; all of them unless told otherwise. -/
def Instruction.visible (instruction : Instruction) : Int :=
  instruction.shownCount.getD instruction.operandCount

end X86Gloss
