/-
X86Gloss/Proofs/Statement/Length.lean

The text of a statement is short. Operands take at most 96 characters each, whatever their numbers
are (`Operand.length_emission_le`), a comma before an operand takes two more, and the words of the
standard rules are brief. So the length of a statement is bounded by a linear function of the number
of visible operands (`Rule.isWithin_statement`), which any capacity beyond it is enough for.

The bound counts at least two operands, because some templates show two without a look at what is
visible.
-/
import X86Gloss.Proofs.Operand.Length
import X86Gloss.Proofs.Rule.Standard

namespace X86Gloss

open Emission

/-! ### Emissions within a limit -/

namespace Emission

variable {ε : Type} {first second : Emission ε} {limit limit' : Nat}

/-- The text of the emission is no longer than the limit. -/
def IsWithin (emission : Emission ε) (limit : Nat) : Prop := emission.text.length ≤ limit

theorem isWithin_empty : (empty : Emission ε).IsWithin 0 := Nat.le_refl 0

theorem isWithin_fail (fault : ε) : (fail fault).IsWithin 0 := Nat.le_refl 0

theorem isWithin_piece {text : String} (h : text.length ≤ limit) :
    (piece text : Emission ε).IsWithin limit := by
  rw [IsWithin, text_piece]
  exact h

theorem IsWithin.mono (h : first.IsWithin limit) (hle : limit ≤ limit') :
    first.IsWithin limit' :=
  Nat.le_trans h hle

theorem IsWithin.append (hfirst : first.IsWithin limit) (hsecond : second.IsWithin limit') :
    (first ++ second).IsWithin (limit + limit') :=
  Nat.le_trans (length_text_append_le first second) (Nat.add_le_add hfirst hsecond)

end Emission

/-! ### Operands of a site -/

namespace Site

variable (site : Site)

theorem isWithin_operand (index : Nat) : (site.operand index).IsWithin 96 := by
  unfold operand
  split
  · exact Operand.length_emission_le _ _
  · exact (isWithin_fail _).mono (Nat.zero_le _)

/-- Every operand of a list takes what an operand takes and what the comma behind it takes. -/
theorem isWithin_listed (operands : List Operand) (index count : Nat) :
    (site.listed operands index count).IsWithin (98 * count) := by
  induction operands generalizing index count with
  | nil =>
    cases count with
    | zero => exact isWithin_empty
    | succ count =>
      -- An operand that is missing is a fault, which has no text.
      exact (isWithin_fail _).mono (Nat.zero_le _)
  | cons operand rest ih =>
    cases count with
    | zero => exact isWithin_empty
    | succ count =>
      have hoperand : (operand.emission site.address).IsWithin 96 :=
        operand.length_emission_le site.address
      have hrest : (if count = 0 then empty
          else piece ", " ++ site.listed rest (index + 1) count).IsWithin (2 + 98 * count) := by
        split
        · exact isWithin_empty.mono (Nat.zero_le _)
        · exact (isWithin_piece (by decide)).append (ih (index + 1) count)
      exact (hoperand.append hrest).mono (by omega)

theorem isWithin_sources :
    site.sources.IsWithin (98 * (site.instruction.visible - 1).toNat) :=
  site.isWithin_listed _ _ _

end Site

/-! ### Brief rules -/

/-- The text has no more characters than the limit. -/
def IsUpTo (limit : Nat) (text : String) : Prop := text.length ≤ limit

instance (limit : Nat) (text : String) : Decidable (IsUpTo limit text) :=
  @decidable_of_iff _ (text.toList.length ≤ limit) (by rw [String.length_toList]; rfl)
    (decidableOfEncoding (fun chars => chars.length ≤ limit) text)

namespace Rule

/-- The words are no longer than the longest note of a comparison, and the name of a function is
much shorter. -/
def IsBrief (rule : Rule) : Prop :=
  (∀ text ∈ rule.texts, IsUpTo 85 text) ∧ ∀ name ∈ rule.intrinsic.toList, IsUpTo 25 name

instance (rule : Rule) : Decidable rule.IsBrief := inferInstanceAs (Decidable (_ ∧ _))

namespace IsBrief

variable {rule : Rule}

theorem length_operator_le (h : rule.IsBrief) : rule.operator.length ≤ 85 :=
  h.1 _ (by simp [texts])

theorem length_predicate_le (h : rule.IsBrief) : rule.predicate.length ≤ 85 :=
  h.1 _ (by simp [texts])

theorem length_comment_le (h : rule.IsBrief) {comment : String}
    (hcomment : rule.comment = some comment) : comment.length ≤ 85 :=
  h.1 _ (by simp [texts, hcomment])

theorem length_comment_getD_le (h : rule.IsBrief) :
    (rule.comment.getD Value.null.shown).length ≤ 85 := by
  rcases hcomment : rule.comment with - | comment
  · decide
  · exact h.length_comment_le hcomment

theorem length_intrinsicName_le (h : rule.IsBrief) : rule.intrinsicName.length ≤ 25 := by
  unfold Rule.intrinsicName
  rcases hname : rule.intrinsic with - | name
  · decide
  · by_cases hempty : name = ""
    · subst hempty
      decide
    · rw [Option.filter_some_pos (by simpa using hempty)]
      exact h.2 name (by simp [hname])

theorem length_moveName_le (h : rule.IsBrief) (verb : String) :
    (rule.moveName verb).length ≤ verb.length + 42 := by
  have hsuffix : (rule.intrinsic.getD "").length ≤ 25 := by
    rcases hname : rule.intrinsic with - | name
    · decide
    · exact h.2 name (by simp [hname])
  have halignment : (if rule.aligned then "aligned" else "unaligned").length ≤ 9 := by
    split <;> decide
  have hvector : "vector_".length = 7 := rfl
  have hbar : "_".length = 1 := rfl
  simp only [Rule.moveName, String.length_append]
  omega

end IsBrief

end Rule

theorem isBrief_of_standardRule? {mnemonic : Mnemonic} {rule : Rule}
    (h : standardRule? mnemonic = some rule) : rule.IsBrief :=
  of_standardRule? (by decide +kernel) h

/-! ### Statements -/

namespace Rule

variable {rule : Rule} (site : Site)

theorem isWithin_vectorMove (h : rule.IsBrief) :
    (rule.vectorMove site).IsWithin (147 + 98 * (site.instruction.visible - 1).toNat) := by
  have hdestination := site.isWithin_operand 0
  have hsources := site.isWithin_sources
  have hclosing : (piece ")" : Emission OperandFault).IsWithin 1 := isWithin_piece (by decide)
  unfold vectorMove
  split
  · exact (isWithin_fail _).mono (Nat.zero_le _)
  · split
    · -- A store: name, first operand, comma, the others and a bracket.
      have hname : (piece (rule.moveName "store" ++ "(") : Emission OperandFault).IsWithin 48 := by
        apply isWithin_piece
        rw [String.length_append]
        exact Nat.add_le_add_right (h.length_moveName_le "store") 1
      have hcomma : (piece ", " : Emission OperandFault).IsWithin 2 := isWithin_piece (by decide)
      exact ((((hname.append hdestination).append hcomma).append hsources).append
        hclosing).mono (by omega)
    · split
      · exact (isWithin_fail _).mono (Nat.zero_le _)
      · split
        · -- A load: the first operand is told before the name.
          have hname : (piece (" = " ++ rule.moveName "load" ++ "(") :
              Emission OperandFault).IsWithin 50 := by
            have hlength := h.length_moveName_le "load"
            have hverb : "load".length = 4 := rfl
            have hequals : " = ".length = 3 := rfl
            have hopening : "(".length = 1 := rfl
            apply isWithin_piece
            simp only [String.length_append]
            omega
          exact (((hdestination.append hname).append hsources).append hclosing).mono (by omega)
        · -- A move between registers has no name.
          have hequals : (piece " = " : Emission OperandFault).IsWithin 3 :=
            isWithin_piece (by decide)
          exact ((hdestination.append hequals).append hsources).mono (by omega)

/-- The semicolon is not counted here. -/
theorem isWithin_body (h : rule.IsBrief) :
    (rule.body site).IsWithin (98 * max 2 site.instruction.visible.toNat + 99) := by
  -- Two operands of 96 characters are reckoned for every template. A note takes 85 more at most,
  -- and with them the comparison is the longest.
  have hfirst := site.isWithin_operand 0
  have hsecond := site.isWithin_operand 1
  unfold body
  cases rule.template with
  | assignment =>
    have hoperator : (piece rule.operator : Emission OperandFault).IsWithin 85 :=
      isWithin_piece h.length_operator_le
    exact ((hfirst.append hoperator).append hsecond).mono (by omega)
  | comparison =>
    have hopening : (piece "compare(" : Emission OperandFault).IsWithin 8 :=
      isWithin_piece (by decide)
    have hcomma : (piece ", " : Emission OperandFault).IsWithin 2 := isWithin_piece (by decide)
    have hnote : (piece (") // " ++ rule.comment.getD Value.null.shown) :
        Emission OperandFault).IsWithin 90 := by
      apply isWithin_piece
      rw [String.length_append]
      exact Nat.add_le_add_left h.length_comment_getD_le 5
    exact ((((hopening.append hfirst).append hcomma).append hsecond).append hnote).mono (by omega)
  | call =>
    have hopening : (piece "(" : Emission OperandFault).IsWithin 1 := isWithin_piece (by decide)
    have hclosing : (piece ")()" : Emission OperandFault).IsWithin 3 := isWithin_piece (by decide)
    exact ((hopening.append hfirst).append hclosing).mono (by omega)
  | jump =>
    have hgoto : (piece "goto " : Emission OperandFault).IsWithin 5 := isWithin_piece (by decide)
    exact (hgoto.append hfirst).mono (by omega)
  | conditionalBranch =>
    have hcondition : (piece ("if (" ++ rule.predicate ++ ") goto ") :
        Emission OperandFault).IsWithin 96 := by
      have hlength := h.length_predicate_le
      have hopening : "if (".length = 4 := rfl
      have hgoto : ") goto ".length = 7 := rfl
      apply isWithin_piece
      simp only [String.length_append]
      omega
    have hnote : (rule.comment.elim empty fun comment => piece ("; // " ++ comment) :
        Emission OperandFault).IsWithin 90 := by
      rcases hcomment : rule.comment with - | comment
      · exact isWithin_empty.mono (Nat.zero_le _)
      · apply isWithin_piece
        rw [String.length_append]
        exact Nat.add_le_add_left (h.length_comment_le hcomment) 5
    exact ((hcondition.append hfirst).append hnote).mono (by omega)
  | vectorMove => exact (isWithin_vectorMove site h).mono (by omega)
  | vectorFunction =>
    have hname : (piece (" = " ++ rule.intrinsicName ++ "(") :
        Emission OperandFault).IsWithin 29 := by
      have hlength := h.length_intrinsicName_le
      have hequals : " = ".length = 3 := rfl
      have hopening : "(".length = 1 := rfl
      apply isWithin_piece
      simp only [String.length_append]
      omega
    have hclosing : (piece ")" : Emission OperandFault).IsWithin 1 := isWithin_piece (by decide)
    exact (((hfirst.append hname).append site.isWithin_sources).append hclosing).mono (by omega)

/-- A statement has at most 98 characters for every visible operand, and 100 besides. -/
theorem isWithin_statement (h : rule.IsBrief) :
    (rule.statement site).IsWithin (98 * max 2 site.instruction.visible.toNat + 100) := by
  have hend : (if rule.terminated then piece ";" else empty :
      Emission OperandFault).IsWithin 1 := by
    split
    · exact isWithin_piece (by decide)
    · exact isWithin_empty.mono (Nat.zero_le _)
  exact (isWithin_body site h).append hend

end Rule

end X86Gloss
