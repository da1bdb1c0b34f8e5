/-
X86Gloss/Operand/Text.lean

The text of an operand, as an emission, and the faults of an operand that has none.

A register stands as its text from the register table. A memory operand is a segment, a base
and then a displacement or, for direct memory without one, the scaled index; the whole is
dereferenced unless it stands for its own address. An immediate is decimal, a relative one
the hex of the address that it leads to. Far pointers have no text.
-/
import X86Gloss.Emission
import X86Gloss.Operand
import X86Gloss.Register
import X86Gloss.Diagnostic
import X86Gloss.Text.Quoted

namespace X86Gloss

/-! ### Faults -/

/-- Why an operand has no text. -/
inductive OperandFault where
  /-- The instruction has no operand with this index. -/
  | missing (mnemonic : Mnemonic) (index : Nat)
  /-- A memory operand without its payload. -/
  | noMemory
  /-- An immediate operand without its payload. -/
  | noImmediate
  /-- A memory operand of no known kind. -/
  | unknownMemory (spelling : Option String)
  /-- A far pointer. -/
  | farPointer
  /-- A register identifier outside the table. -/
  | register (id : Int)
deriving DecidableEq

namespace OperandFault

/-- What the fault is reported as. -/
def problem : OperandFault → Problem
  | .missing _ index => .operand ("Operand #" ++ index.repr ++ " is missing")
  | .noMemory => .operand "Memory operand without memory payload"
  | .noImmediate => .operand "Immediate operand without immediate payload"
  | .unknownMemory spelling =>
    .operand ("Unknown memory operand kind: " ++ spelling.elim Value.null.shown quoted)
  | .farPointer => .operand "Cannot render pointer operand"
  | .register id => .register id

/-- Only a missing operand tells where it was looked for. -/
def context : OperandFault → Context
  | .missing mnemonic index =>
    { mnemonic := some mnemonic.text, operandIndex := some (index : Int) }
  | _ => {}

/-- The fault as it is reported. -/
def diagnostic (fault : OperandFault) : Diagnostic := .of fault.problem fault.context

end OperandFault

/-! ### Emissions -/

/-- The text of a register identifier. -/
def Register.emission (id : Int) : Emission OperandFault :=
  match Register.ofId? id with
  | some register => .piece register.text
  | none => .fail (.register id)

namespace Memory

/-- The index, and its factor when that is not one. -/
def scaledIndex (memory : Memory) : Emission OperandFault :=
  if memory.scale = 1 then Register.emission memory.index
  else
    .piece "(" ++ Register.emission memory.index
      ++ .ofPieces [" * ", Numeral.unsigned memory.scale, ")"]

/-- What is added to the base: the displacement, or the index of direct memory without one. -/
def offset (memory : Memory) : Emission OperandFault :=
  match memory.displacement with
  | some displacement => .ofPieces (" + " :: Numeral.signedPieces displacement)
  | none =>
    if memory.kind = .direct && memory.isIndexed then .piece " + " ++ memory.scaledIndex
    else .empty

/-- The text between an opening mark and the closing parenthesis. -/
def enclosed (opening : String) (memory : Memory) : Emission OperandFault :=
  .piece opening ++ Register.emission memory.segment ++ .piece ": "
    ++ Register.emission memory.base ++ memory.offset ++ .piece ")"

/-- The text of a memory operand, dereferenced unless it stands for its address. -/
def emission (memory : Memory) : Emission OperandFault :=
  match memory.kind with
  | .direct | .indirectBase => memory.enclosed "*("
  | .address => memory.enclosed "("
  | .unknown spelling => .fail (.unknownMemory spelling)

end Memory

/-- The text of a constant in an instruction at an address. -/
def Immediate.emission (address : Int) (immediate : Immediate) : Emission OperandFault :=
  if immediate.isRelative then .piece (Numeral.hex (address + immediate.value))
  else if immediate.isSigned then .ofPieces (Numeral.signedPieces immediate.value)
  else .piece (Numeral.unsigned immediate.value)

/-- The text of an operand of an instruction at an address. -/
def Operand.emission (address : Int) (operand : Operand) : Emission OperandFault :=
  match operand.kind with
  | .register => Register.emission operand.register
  | .memory => operand.memory.elim (.fail .noMemory) Memory.emission
  | .immediate => operand.immediate.elim (.fail .noImmediate) (Immediate.emission address)
  | .pointer => .fail .farPointer

end X86Gloss
