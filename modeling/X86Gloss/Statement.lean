/-
X86Gloss/Statement.lean

The statement of an instruction: what a rule makes of its operands, as an emission. Each
template is a line of its own here; the order of the pieces is the order in which they are
written, and an operand that is missing or has no text stops the statement where it would
stand.
-/
import X86Gloss.Operand.Text
import X86Gloss.Rule

namespace X86Gloss

/-- An instruction with its operands and the address where it stands. -/
structure Site where
  instruction : Instruction
  operands : List Operand
  address : Int
deriving DecidableEq

namespace Site

/-- The fault of an operand that is not there. -/
def missing (site : Site) (index : Nat) : OperandFault :=
  .missing site.instruction.mnemonic index

/-- The text of the operand with an index. -/
def operand (site : Site) (index : Nat) : Emission OperandFault :=
  match site.operands[index]? with
  | some operand => operand.emission site.address
  | none => .fail (site.missing index)

/-- The texts of `count` operands from the front of a list, with commas between them; `index`
is the index of the first. -/
def listed (site : Site) : List Operand → Nat → Nat → Emission OperandFault
  | _, _, 0 => .empty
  | [], index, _ + 1 => .fail (site.missing index)
  | operand :: rest, index, count + 1 =>
    operand.emission site.address
      ++ if count = 0 then .empty else .piece ", " ++ site.listed rest (index + 1) count

/-- The texts of all visible operands but the first. -/
def sources (site : Site) : Emission OperandFault :=
  site.listed (site.operands.drop 1) 1 (site.instruction.visible - 1).toNat

end Site

namespace Rule

/-- The name of a vector operation that has none. -/
def namelessIntrinsic : String := "_mm_??_"

/-- The name of a vector operation. -/
def intrinsicName (rule : Rule) : String :=
  (rule.intrinsic.filter (· ≠ "")).getD namelessIntrinsic

/-- The function that a vector move stands for. -/
def moveName (rule : Rule) (verb : String) : String :=
  "vector_" ++ (if rule.aligned then "aligned" else "unaligned") ++ "_" ++ verb
    ++ rule.intrinsic.getD ""

/-- A vector move: a store if the destination is in memory, a load if the source is, else an
assignment. -/
def vectorMove (rule : Rule) (site : Site) : Emission OperandFault :=
  match site.operands with
  | [] => .fail (site.missing 0)
  | destination :: rest =>
    if destination.addressesMemory then
      .piece (rule.moveName "store" ++ "(") ++ site.operand 0 ++ .piece ", " ++ site.sources
        ++ .piece ")"
    else
      match rest with
      | [] => .fail (site.missing 1)
      | source :: _ =>
        if source.addressesMemory then
          site.operand 0 ++ .piece (" = " ++ rule.moveName "load" ++ "(") ++ site.sources
            ++ .piece ")"
        else
          site.operand 0 ++ .piece " = " ++ site.sources

/-- A template with its words and operands filled in. -/
def body (rule : Rule) (site : Site) : Emission OperandFault :=
  match rule.template with
  | .assignment => site.operand 0 ++ .piece rule.operator ++ site.operand 1
  | .comparison =>
    .piece "compare(" ++ site.operand 0 ++ .piece ", " ++ site.operand 1
      ++ .piece (") // " ++ rule.comment.getD Value.null.shown)
  | .call => .piece "(" ++ site.operand 0 ++ .piece ")()"
  | .jump => .piece "goto " ++ site.operand 0
  | .conditionalBranch =>
    .piece ("if (" ++ rule.predicate ++ ") goto ") ++ site.operand 0
      ++ rule.comment.elim .empty fun comment => .piece ("; // " ++ comment)
  | .vectorMove => rule.vectorMove site
  | .vectorFunction =>
    site.operand 0 ++ .piece (" = " ++ rule.intrinsicName ++ "(") ++ site.sources ++ .piece ")"

/-- The statement of an instruction, with the semicolon that may end it. -/
def statement (rule : Rule) (site : Site) : Emission OperandFault :=
  rule.body site ++ if rule.terminated then .piece ";" else .empty

end Rule

end X86Gloss
