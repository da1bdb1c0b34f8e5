/-
X86Gloss/Proofs/Rule/Standard.lean

What holds of all standard rules, found by going through the mnemonics. They hold no words but
those that their templates read (`essential_of_standardRule?`), and these make legible sentences
(`hasLegibleWords_of_standardRule?`). A rule belongs to one mnemonic, except that a
vector operation has the same rule with and without the letter `v` before its mnemonic
(`eq_or_sibling_of_standardRule?`).
-/
import X86Gloss.Proofs.Statement.Legible
import X86Gloss.Rule.Standard

namespace X86Gloss

/-! ### The words of the standard rules -/

namespace Rule

/-- The words that the template reads can be told apart from operands. -/
def HasLegibleWords (rule : Rule) : Prop :=
  (rule.template = .assignment → rule.operator ∈ " = &" :: joints)
  ∧ (rule.template = .conditionalBranch → IsCondition rule.predicate)
  ∧ (rule.template = .vectorMove → IsName (rule.intrinsic.getD ""))
  ∧ (rule.template = .vectorFunction → IsFunctionName rule.intrinsicName)

instance (rule : Rule) : Decidable rule.HasLegibleWords :=
  inferInstanceAs (Decidable (_ ∧ _ ∧ _ ∧ _))

variable {rule : Rule} {site : Site}

/-- With such words and with operand texts a sentence is legible, a move between registers
apart. -/
theorem isLegible_sentence (hwords : rule.HasLegibleWords)
    (hprinted : ∀ text ∈ rule.printed site, IsOperandText text)
    (hmove : rule.movesRegister site = false) : (rule.sentence site).IsLegible := by
  obtain ⟨hoperator, hpredicate, hsuffix, hname⟩ := hwords
  rw [← operands_sentence] at hprinted
  rw [movesRegister] at hmove
  rw [sentence] at hprinted ⊢
  cases htemplate : rule.template with
  | assignment =>
    simp only [htemplate] at hprinted ⊢
    by_cases haddress : rule.operator = " = &"
    · simp only [if_pos haddress, Sentence.operands, Expression.operands, List.forall_mem_cons]
        at hprinted ⊢
      exact ⟨by decide, hprinted.1, hprinted.2.1⟩
    · simp only [if_neg haddress, Sentence.operands, Expression.operands, List.forall_mem_cons]
        at hprinted ⊢
      exact ⟨(List.mem_cons.mp (hoperator htemplate)).resolve_left haddress, hprinted.1,
        hprinted.2.1⟩
  | comparison =>
    simp only [htemplate, Sentence.operands, List.forall_mem_cons] at hprinted ⊢
    exact ⟨hprinted.1, hprinted.2.1⟩
  | call | jump =>
    simp only [htemplate, Sentence.operands, List.forall_mem_cons] at hprinted ⊢
    exact hprinted.1
  | conditionalBranch =>
    simp only [htemplate, Sentence.operands, List.forall_mem_cons] at hprinted ⊢
    exact ⟨hpredicate htemplate, hprinted.1⟩
  | vectorMove =>
    simp only [htemplate] at hprinted ⊢
    by_cases hstore : site.addressesMemory 0 = true
    · simp only [if_pos hstore, Sentence.operands, List.forall_mem_cons] at hprinted ⊢
      exact ⟨hsuffix htemplate, hprinted⟩
    · by_cases hload : site.addressesMemory 1 = true
      · simp only [if_neg hstore, if_pos hload, Sentence.operands, List.forall_mem_cons]
          at hprinted ⊢
        exact ⟨by decide, hprinted.1, hsuffix htemplate, hprinted.2⟩
      · -- This would be a move between registers.
        simp [htemplate, hstore, hload] at hmove
  | vectorFunction =>
    simp only [htemplate, Sentence.operands, List.forall_mem_cons] at hprinted ⊢
    exact ⟨by decide, hprinted.1, hname htemplate, hprinted.2⟩

end Rule

section Standard

variable {mnemonic : Mnemonic} {rule : Rule}

/-- The standard rules hold no other words than those that their templates read. -/
theorem essential_of_standardRule? (h : standardRule? mnemonic = some rule) :
    rule.essential = rule :=
  of_standardRule? (p := fun rule => rule.essential = rule) (by decide +kernel) h

theorem hasLegibleWords_of_standardRule? (h : standardRule? mnemonic = some rule) :
    rule.HasLegibleWords :=
  of_standardRule? (by decide +kernel) h

end Standard

/-! ### Mnemonics with one rule -/

namespace Mnemonic

/-- One of two mnemonics is the other with a `v` before it. -/
def IsSibling (first second : Mnemonic) : Prop :=
  second.text = "v" ++ first.text ∨ first.text = "v" ++ second.text

end Mnemonic

/-- A number made of the words of a rule, which are compared faster by way of it. -/
def Rule.code (rule : Rule) : Nat :=
  let words := [rule.template.name, rule.operator, rule.predicate, rule.comment.getD "",
    rule.intrinsic.getD "", if rule.aligned then "a" else ""]
  words.foldl (fun code word =>
    word.toByteArray.data.toList.foldl (fun code byte => 0x100 * code + byte.toNat) code) 0

/-- The mnemonics with a standard rule of some code. -/
def codedMnemonics (code : Nat) : List Mnemonic :=
  Mnemonic.all.filter fun mnemonic => (standardRule? mnemonic).any fun rule => rule.code == code

theorem mem_codedMnemonics {mnemonic : Mnemonic} {rule : Rule}
    (h : standardRule? mnemonic = some rule) : mnemonic ∈ codedMnemonics rule.code := by
  rw [codedMnemonics, List.mem_filter, h]
  exact ⟨mnemonic.mem_all, beq_self_eq_true rule.code⟩

/-- Whether the code is that of one mnemonic, or of a vector operation and its sibling. -/
def Rule.hasOwnCode (rule : Rule) : Bool :=
  match codedMnemonics rule.code with
  | [_] => true
  | [first, second] => rule.template = .vectorFunction && second.text = "v" ++ first.text
  | _ => false

/-- Two mnemonics with the same standard rule are the same, or siblings with a vector operation. -/
theorem eq_or_sibling_of_standardRule? {mnemonic mnemonic' : Mnemonic} {rule : Rule}
    (h : standardRule? mnemonic = some rule) (h' : standardRule? mnemonic' = some rule) :
    mnemonic = mnemonic' ∨ rule.template = .vectorFunction ∧ mnemonic.IsSibling mnemonic' := by
  -- Rules are compared by their codes, so that one pass over the table settles all pairs.
  have hown : rule.hasOwnCode = true :=
    of_standardRule? (p := fun rule => rule.hasOwnCode = true) (by decide +kernel) h
  have hmem := mem_codedMnemonics h
  have hmem' := mem_codedMnemonics h'
  unfold Rule.hasOwnCode at hown
  split at hown
  · rename_i only honly
    rw [honly, List.mem_singleton] at hmem hmem'
    exact .inl (hmem.trans hmem'.symm)
  · rename_i first second hpair
    simp only [hpair, List.mem_cons, List.not_mem_nil, or_false] at hmem hmem'
    rw [Bool.and_eq_true, decide_eq_true_eq, decide_eq_true_eq] at hown
    -- Both mnemonics are among the two with the code: in the mixed cases they are siblings.
    rcases hmem with rfl | rfl <;> rcases hmem' with rfl | rfl
    · exact .inl rfl
    · exact .inr ⟨hown.1, .inl hown.2⟩
    · exact .inr ⟨hown.1, .inr hown.2⟩
    · exact .inl rfl
  · cases hown

end X86Gloss
