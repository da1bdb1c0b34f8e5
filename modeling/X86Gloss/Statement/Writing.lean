/-
X86Gloss/Statement/Writing.lean

Writing a statement into a sink. Each template hands its words and operands to the sink in
turn; all of them share the one cursor of the sink, so a statement may run out of room, or
into an operand without a text, at any of its steps.
-/
import X86Gloss.Operand.Writing
import X86Gloss.Statement

namespace X86Gloss

open Writing

namespace Site

/-- The operand with an index. -/
def fetch (site : Site) (index : Nat) : Writing OperandFault Operand :=
  match site.operands[index]? with
  | some operand => pure operand
  | none => stop (site.missing index)

/-- Writes the operand with an index. -/
def write (site : Site) (index : Nat) : Writing OperandFault Unit := do
  let operand ← site.fetch index
  operand.write site.address

/-- Writes `count` operands from `index` on, a comma before each that is not the `first`. -/
def writeFrom (site : Site) (first : Nat) : Nat → Nat → Writing OperandFault Unit
  | _, 0 => pure ()
  | index, count + 1 => do
    if first < index then put ", "
    site.write index
    site.writeFrom first (index + 1) count

/-- Writes the visible operands from the one with index `first` on. -/
def writeList (site : Site) (first : Nat) : Writing OperandFault Unit :=
  site.writeFrom first first (site.instruction.visible - first).toNat

end Site

namespace Rule

/-- Writes a vector move. Which form it takes is known before anything is written. -/
def writeVectorMove (rule : Rule) (site : Site) : Writing OperandFault Unit := do
  let destination ← site.fetch 0
  if destination.addressesMemory then
    put (rule.moveName "store" ++ "(")
    site.write 0
    put ", "
    site.writeList 1
    put ")"
  else
    let source ← site.fetch 1
    site.write 0
    if source.addressesMemory then
      put (" = " ++ rule.moveName "load" ++ "(")
      site.writeList 1
      put ")"
    else
      put " = "
      site.writeList 1

/-- Writes a template with its words and operands. -/
def writeBody (rule : Rule) (site : Site) : Writing OperandFault Unit :=
  match rule.template with
  | .assignment => do
    site.write 0
    put rule.operator
    site.write 1
  | .comparison => do
    put "compare("
    site.write 0
    put ", "
    site.write 1
    put (") // " ++ rule.comment.getD Value.null.shown)
  | .call => do
    put "("
    site.write 0
    put ")()"
  | .jump => do
    put "goto "
    site.write 0
  | .conditionalBranch => do
    put ("if (" ++ rule.predicate ++ ") goto ")
    site.write 0
    match rule.comment with
    | some comment => put ("; // " ++ comment)
    | none => pure ()
  | .vectorMove => rule.writeVectorMove site
  | .vectorFunction => do
    site.write 0
    put (" = " ++ rule.intrinsicName ++ "(")
    site.writeList 1
    put ")"

/-- Writes the statement of an instruction, and the semicolon that may end it. -/
def write (rule : Rule) (site : Site) : Writing OperandFault Unit := do
  rule.writeBody site
  if rule.terminated then put ";"

end Rule

end X86Gloss
