/-
X86Gloss/Operand/Writing.lean

Writing an operand into a sink, text by text. Nothing is put together beforehand: every part
of an operand goes to the sink as soon as it is known, and a part that has no text stops the
writing where it would stand.
-/
import X86Gloss.Operand.Text
import X86Gloss.Writing

namespace X86Gloss

open Writing

/-- Writes the digits of a word. -/
def Numeral.writeUnsigned (value : Int) : Writing OperandFault Unit := put (unsigned value)

/-- Writes the signed reading of a word, the sign before the digits. -/
def Numeral.writeSigned (value : Int) : Writing OperandFault Unit := do
  let value := signedWord value
  if value < 0 then
    put "-"
    writeUnsigned (-value)
  else
    writeUnsigned value

/-- Writes the text of a register identifier. -/
def Register.write (id : Int) : Writing OperandFault Unit :=
  match Register.ofId? id with
  | some register => put register.text
  | none => stop (.register id)

namespace Memory

/-- What opens a memory operand of a known kind. -/
def writeOpening (memory : Memory) : Writing OperandFault Unit :=
  match memory.kind with
  | .direct | .indirectBase => put "*("
  | .address => put "("
  | .unknown spelling => stop (.unknownMemory spelling)

/-- Writes the index, and its factor when that is not one. -/
def writeIndex (memory : Memory) : Writing OperandFault Unit := do
  if memory.scale = 1 then
    Register.write memory.index
  else
    put "("
    Register.write memory.index
    put " * "
    Numeral.writeUnsigned memory.scale
    put ")"

/-- Writes what is added to the base. -/
def writeOffset (memory : Memory) : Writing OperandFault Unit :=
  match memory.displacement with
  | some displacement => do
    put " + "
    Numeral.writeSigned displacement
  | none =>
    if memory.kind = .direct && memory.isIndexed then do
      put " + "
      memory.writeIndex
    else pure ()

/-- Writes a memory operand. -/
def write (memory : Memory) : Writing OperandFault Unit := do
  memory.writeOpening
  Register.write memory.segment
  put ": "
  Register.write memory.base
  memory.writeOffset
  put ")"

end Memory

/-- Writes a constant in an instruction at an address. -/
def Immediate.write (address : Int) (immediate : Immediate) : Writing OperandFault Unit :=
  if immediate.isRelative then put (Numeral.hex (address + immediate.value))
  else if immediate.isSigned then Numeral.writeSigned immediate.value
  else Numeral.writeUnsigned immediate.value

/-- Writes an operand of an instruction at an address. -/
def Operand.write (address : Int) (operand : Operand) : Writing OperandFault Unit :=
  match operand.kind, operand.memory, operand.immediate with
  | .register, _, _ => Register.write operand.register
  | .memory, some memory, _ => memory.write
  | .memory, none, _ => stop .noMemory
  | .immediate, _, some immediate => immediate.write address
  | .immediate, _, none => stop .noImmediate
  | .pointer, _, _ => stop .farPointer

end X86Gloss
