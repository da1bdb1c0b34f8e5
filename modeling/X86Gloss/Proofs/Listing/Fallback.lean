/-
X86Gloss/Proofs/Listing/Fallback.lean

When a decoded record is listed by its assembler text. All its operands can be rendered, so a
statement fails only where it asks for an operand that is not there. This is decided by the
template and the number of operands (`Record.LacksOperand`), and for a vector move by the kind of
the first. The statement of so few operands is short, so the fault is found within the limit
whatever the first capacity is.

A statement that is told is never taken for an assembler text: it does not begin with the comment
mark.
-/
import X86Gloss.Proofs.Listing.Need
import X86Gloss.Proofs.Record.Renderable
import X86Gloss.Proofs.Statement.Length

namespace X86Gloss

/-! ### Statements do not begin with the comment mark -/

/-- An assignment is made with a joint to the first operand. -/
theorem Rule.sentence_eq_assignment {rule : Rule} {site : Site} (h : rule.HasLegibleWords)
    {joint destination : String} {value : Expression}
    (hsentence : rule.sentence site = .assignment joint destination value) :
    joint ∈ joints ∧ destination = (site.operand 0).text := by
  have hequals : " = " ∈ joints := by decide
  -- Only assignments and vector operations make such a sentence, and all but the former with a
  -- plain equals sign.
  rw [sentence] at hsentence
  cases htemplate : rule.template with
  | assignment =>
    simp only [htemplate] at hsentence
    by_cases haddress : rule.operator = " = &"
    · rw [if_pos haddress] at hsentence
      cases hsentence
      exact ⟨hequals, rfl⟩
    · rw [if_neg haddress] at hsentence
      cases hsentence
      exact ⟨(List.mem_cons.mp (h.1 htemplate)).resolve_left haddress, rfl⟩
  | comparison | call | jump | conditionalBranch =>
    simp only [htemplate] at hsentence
    cases hsentence
  | vectorMove =>
    simp only [htemplate] at hsentence
    split at hsentence
    · cases hsentence
    · split at hsentence <;> cases hsentence <;> exact ⟨hequals, rfl⟩
  | vectorFunction =>
    simp only [htemplate] at hsentence
    cases hsentence
    exact ⟨hequals, rfl⟩

/-- No sentence of a rule with legible words begins with a slash. -/
theorem Rule.head?_text_sentence_ne {rule : Rule} (h : rule.HasLegibleWords) (site : Site) :
    (rule.sentence site).text.toList.head? ≠ some '/' := by
  rcases hsentence : rule.sentence site with ⟨joint, destination, value⟩ | _ | _ | _ | _ | _
  · -- An assignment begins with its first operand, or with its joint if that is empty; no mark of a
    -- comment stands in either.
    obtain ⟨hjoint, rfl⟩ := sentence_eq_assignment h hsentence
    obtain ⟨operator, -, rfl⟩ := List.mem_map.mp hjoint
    have hunmarked := (site.isUnmarked_isApart_operand 0).1
    rcases hchars : (site.operand 0).text.toList with - | ⟨c, chars⟩
    · simp [Sentence.text, hchars]
    · have hc := hunmarked c (by rw [hchars]; exact List.mem_cons_self)
      simp only [Sentence.text, String.toList_append, hchars, List.cons_append, List.head?_cons,
        ne_eq, Option.some.injEq]
      rintro rfl
      cases hc
  · simp [Sentence.text]
  · simp [Sentence.text]
  · simp [Sentence.text]
  · simp [Sentence.text]
  · rename_i aligned suffix target sources
    obtain ⟨rest, hname⟩ := exists_toList_moveName (.move aligned suffix) "store"
    simp [Sentence.text, hname]

/-! ### Statements of consistent records -/

namespace Record

variable {record : Record} {rule : Rule}

/-- An operand has a text exactly when the record has it. -/
theorem IsConsistent.fault_operand_eq_none_iff (h : record.IsConsistent) (index : Nat) :
    (record.site.operand index).fault = none ↔ index < record.operands.length :=
  record.site.fault_operand_eq_none_iff fun operand hoperand =>
    (h.operands operand hoperand).fault_emission _

/-- The rule asks for an operand that the record does not have. -/
def LacksOperand (record : Record) (rule : Rule) : Prop :=
  record.operands = []
  ∨ (rule.template = .assignment ∨ rule.template = .comparison) ∧ record.operands.length = 1
  ∨ rule.template = .vectorMove
    ∧ ∃ operand, record.operands = [operand] ∧ operand.kind ≠ .memory

/-- A statement has no fault exactly when the rule finds its operands. -/
theorem IsConsistent.fault_statement_eq_none_iff (h : record.IsConsistent) (rule : Rule) :
    (rule.statement record.site).fault = none ↔ ¬ record.LacksOperand rule := by
  have hvisible : (record.site.instruction.visible - 1).toNat = record.operands.length - 1 := by
    rw [show record.site.instruction.visible = record.operands.length from h.shown]
    omega
  have hmemory : record.site.addressesMemory 0 = record.operands[0]?.any Operand.addressesMemory :=
    rfl
  have hlength : record.site.operands.length = record.operands.length := rfl
  rw [rule.fault_statement_eq_none_iff record.site, LacksOperand]
  simp only [h.fault_operand_eq_none_iff, hmemory, hlength]
  rcases hoperands : record.operands with - | ⟨first, - | ⟨second, rest⟩⟩
  · -- Every template prints the first operand, so without operands there is always a fault.
    have hzero : 0 ∈ rule.printedIndices record.site := by
      unfold Rule.printedIndices
      cases rule.template <;> exact List.mem_cons_self
    constructor
    · intro hall
      exact absurd (hall.1 0 hzero) (Nat.not_lt_zero 0)
    · intro hlacks
      exact absurd (.inl rfl) hlacks
  · -- With one operand it depends on the template, and for a vector move on whether it is in
    -- memory.
    have hfirst :=
      (h.operands first (by rw [hoperands]; exact List.mem_cons_self)).addressesMemory_iff
    simp only [Rule.printedIndices, Site.sourceIndices, hvisible, hoperands]
    cases rule.template <;> simp [← hfirst]
  · -- With two or more, every index that a template prints is in range.
    simp only [Rule.printedIndices, Site.sourceIndices, hvisible, hoperands]
    cases rule.template with
    | vectorMove | vectorFunction =>
      simp only [List.forall_mem_cons, List.mem_range'_1, List.length_cons]
      simp
      omega
    | _ => simp

/-- The statement of a record that lacks an operand has no more than one, and is short. -/
theorem IsConsistent.length_statement_lt (h : record.IsConsistent) (hbrief : rule.IsBrief)
    (hlacks : record.LacksOperand rule) :
    (rule.statement record.site).text.length < standardLimit.toNat := by
  have hfew : record.operands.length ≤ 1 := by
    rcases hlacks with hnil | ⟨-, hone⟩ | ⟨-, operand, hsingle, -⟩
    · rw [hnil]
      exact Nat.zero_le 1
    · exact Nat.le_of_eq hone
    · rw [hsingle]
      exact Nat.le_refl 1
  have hshown : record.site.instruction.visible = record.operands.length := h.shown
  have hwithin : (rule.statement record.site).text.length ≤ _ :=
    rule.isWithin_statement record.site hbrief
  have hlimit : standardLimit.toNat = 4096 := rfl
  omega

end Record

/-! ### What decoded records are told as -/

/-- A statement that is told is not the assembler text of a record. -/
theorem Record.text_statement_ne_fallback {record : Record} {rule : Rule}
    (hstandard : standardRule? record.instruction.mnemonic = some rule)
    (hnone : (rule.statement record.site).fault = none) :
    (rule.statement record.site).text ≠ record.fallback := by
  intro htext
  have hwords := hasLegibleWords_of_standardRule? hstandard
  have hessential := essential_of_standardRule? hstandard
  have hhead := Rule.head?_text_sentence_ne hwords record.site
  rw [← rule.text_statement record.site hessential hnone, htext] at hhead
  exact hhead (by simp [Record.fallback, commentMark])

namespace RuleTable

/-- What decides whether a consistent record is told as its assembler text. -/
theorem told_eq_fallback_iff {record : Record} {rule : Rule} {last : Reply}
    (h : record.IsConsistent)
    (hrule : standard.rule? record.instruction.mnemonic = some rule)
    (hlast : standard.gloss record.request (some (List.replicate standardLimit.toNat 0))
      = .ok last) :
    record.told standardLimit.toNat last.result = .ok record.fallback
      ↔ record.LacksOperand rule := by
  have hstandard := hrule
  rw [rule?_standard] at hstandard
  have hascii := hasAsciiTexts_standard _ _ hrule
  -- No operands at all are found out by the check, one that is missing by the statement.
  by_cases hsome : record.operands = []
  · have hincomplete : ¬ record.IsComplete := fun hcomplete => hcomplete.1 hsome
    obtain ⟨fault, listed, hgloss⟩ := standard.gloss_of_not_isComplete hincomplete
    cases hlast.symm.trans (hgloss _)
    exact ⟨fun _ => .inl hsome, fun _ => rfl⟩
  have hcomplete : record.IsComplete := by
    refine ⟨hsome, ?_⟩
    rw [h.counted]
    have hpositive := List.length_pos_of_ne_nil hsome
    omega
  have hvalid := Record.valid_request hcomplete (by decide : 0 < standardLimit.toNat)
  by_cases hlacks : record.LacksOperand rule
  · -- The fault is reached within the limit, because the statement of so few operands is short.
    rcases hfault : (rule.statement record.site).fault with - | fault
    · exact absurd hlacks ((h.fault_statement_eq_none_iff rule).mp hfault)
    · have hfits := h.length_statement_lt (isBrief_of_standardRule? hstandard) hlacks
      cases hlast.symm.trans (gloss_fault hvalid hrule hascii hfits hfault)
      exact ⟨fun _ => hlacks, fun _ => rfl⟩
  · have hnone := (h.fault_statement_eq_none_iff rule).mpr hlacks
    -- No fault: the record is told by its statement, which is no comment, or does not fit at all.
    refine ⟨fun htold => absurd htold ?_, fun hlacks' => absurd hlacks' hlacks⟩
    rcases Nat.lt_or_ge (rule.statement record.site).text.length standardLimit.toNat with hlt | hge
    · cases hlast.symm.trans (gloss_fits hvalid hrule hascii hlt hnone)
      intro htold
      exact Record.text_statement_ne_fallback hstandard hnone (Except.ok.inj htold)
    · obtain ⟨before, piece, hcut⟩ := Emission.exists_cutAt hvalid.positive hge
      cases hlast.symm.trans (gloss_cut hvalid hrule hascii hcut)
      nofun

/-- **Decoded records are rendered or listed by their assembler text.**  Every record of a stream
has operands that render into any sink with enough room, and it is told as its assembler text
exactly if its mnemonic has no rule, or it lacks an operand that its rule asks for. -/
theorem tell_decoded {disassembler : Disassembler} {code : List UInt8} {address count : Int}
    {records : List Record} {record : Record}
    (h : disassembler.decode code address count = .ok records) (hrecord : record ∈ records) :
    record.IsConsistent
    ∧ (∀ operand ∈ record.operands, ∀ (address : Int) (sink : Sink) (halt : Halt OperandFault),
        ((operand.write address).into sink).2 = some halt →
        ∃ requested remaining, halt = .refused (.noRoom requested remaining))
    ∧ ∀ capacity, 0 < capacity → capacity ≤ standardLimit.toNat →
        ((standard.tell record standardLimit.toNat capacity).text = .ok ("// " ++ record.assembly)
          ↔ standard.rule? record.instruction.mnemonic = none
            ∨ ∃ rule, standard.rule? record.instruction.mnemonic = some rule
              ∧ record.LacksOperand rule) := by
  have hconsistent := Disassembler.isConsistent_of_mem_decode h hrecord
  refine ⟨hconsistent, ?_, ?_⟩
  · intro operand hoperand address sink halt hhalt
    exact (hconsistent.operands operand hoperand).halts_for_room address hhalt
  · intro capacity hpositive hbounded
    obtain ⟨last, hlast, htext, -⟩ :=
      tell_eq_told hasAsciiTexts_standard record hpositive hbounded
    -- What the record is told as is decided by one call at the limit.
    rw [htext, ← record.fallback_eq]
    have hlimit : 0 < standardLimit.toNat := by decide
    rcases hrule : standard.rule? record.instruction.mnemonic with - | rule
    · rw [told_of_rule?_eq_none hrule hlimit hlast]
      exact ⟨fun _ => .inl rfl, fun _ => rfl⟩
    · rw [told_eq_fallback_iff hconsistent hrule hlast]
      constructor
      · intro hlacks
        exact .inr ⟨rule, rfl, hlacks⟩
      · rintro (hnone | ⟨rule', hrule', hlacks⟩)
        · cases hnone
        · cases hrule'
          exact hlacks

/-- A move that comes with one operand only. -/
theorem tell_decoded_mov :
    ∃ record, Disassembler.decode
        ⟨none, [⟨"mov", "?", 2, 0x10, false, false, [.immediate 1]⟩], none⟩ [0x90] 0x10 0
          = .ok [record]
      ∧ (standard.tell record standardLimit.toNat 1).text = .ok "// mov ?" := by
  refine ⟨⟨0x10, 2, "mov ?", ⟨.ofSpelling "mov", 1, none, 2⟩, [.ofImmediate ⟨1, false, false⟩]⟩,
    rfl, ?_⟩
  obtain ⟨-, -, htell⟩ := tell_decoded
    (rfl : Disassembler.decode
      ⟨none, [⟨"mov", "?", 2, 0x10, false, false, [.immediate 1]⟩], none⟩ [0x90] 0x10 0 = .ok _)
    List.mem_cons_self
  have hmnemonic : Mnemonic.ofSpelling "mov" = .mov := by decide +kernel
  refine (htell 1 (by decide) (by decide)).mpr
    (.inr ⟨.assign " = ", ?_, .inr (.inl ⟨.inl rfl, rfl⟩)⟩)
  rw [hmnemonic]
  rfl

end RuleTable

end X86Gloss
