/-
X86Gloss/Proofs/Statement/Line.lean

A statement is one well-formed line. What a line is depends on the rule only in its ending: a
comparison ends in a note, everything else in a semicolon, and a branch may have a note behind that.
So a sentence is a lead, the closing of the rule and its note (`Rule.text_sentence`). The lead is a
phrase, the closing is at most a semicolon, and the note is the only place where slashes stand in a
row; put together they are an `IsLine` (`isLine_of_isPhrase`).
-/
import X86Gloss.Proofs.Operand.Phrase
import X86Gloss.Proofs.Statement.Sentence

namespace X86Gloss

/-! ### Occurrences of a pattern -/

section Occurrences

variable {α : Type} {a : α} {pattern front text : List α}

/-- An end of a text that begins with a symbol missing from the front is an end of the rest. -/
theorem isSuffix_of_isSuffix_append (h : a ∉ front) (hend : a :: pattern <:+ front ++ text) :
    a :: pattern <:+ text := by
  rcases List.suffix_or_suffix_of_suffix hend (List.suffix_append front text) with
    hle | ⟨more, hmore⟩
  · exact hle
  rcases more with - | ⟨b, more⟩
  · exact ⟨[], by simpa using hmore.symm⟩
  · -- What the end has more than the rest stands in the front, and begins with the symbol.
    obtain ⟨before, hbefore⟩ := hend
    rw [← hmore, ← List.append_assoc, List.append_cancel_right_eq] at hbefore
    obtain rfl : b = a := (List.cons.inj hmore).1
    exact absurd (hbefore ▸ List.mem_append_right before List.mem_cons_self) h

variable [BEq α] [LawfulBEq α]

/-- No occurrence begins in a front that the first symbol of the pattern is missing from. -/
theorem countP_tails_append (h : a ∉ front) (text : List α) :
    (front ++ text).tails.countP ((a :: pattern).isPrefixOf ·)
      = text.tails.countP ((a :: pattern).isPrefixOf ·) := by
  induction front with
  | nil => rfl
  | cons b front ih =>
    obtain ⟨hb, hfront⟩ := not_or.mp (mt List.mem_cons.mpr h)
    rw [List.cons_append, List.tails_cons, List.countP_cons_of_neg, ih hfront]
    simp [List.isPrefixOf, hb]

theorem countP_tails_eq_zero_iff :
    text.tails.countP (pattern.isPrefixOf ·) = 0 ↔ ¬ pattern <:+: text := by
  simp only [List.countP_eq_zero, List.mem_tails, List.isPrefixOf_iff_prefix,
    List.infix_iff_prefix_suffix, not_exists, not_and]
  exact ⟨fun h rest hpattern hrest => h rest hrest hpattern,
    fun h rest hrest hpattern => h rest hpattern hrest⟩

end Occurrences

/-- The number of places in the text where the pattern stands. -/
def occurrences (pattern text : String) : Nat :=
  text.toList.tails.countP (pattern.toList.isPrefixOf ·)

/-! ### Lines -/

/-- What the text of a successful translation by a rule looks like. -/
structure IsLine (rule : Rule) (text : String) : Prop where
  /-- Every character is printable ASCII. -/
  printable : ∀ c ∈ text.toList, 0x20 ≤ c.toNat ∧ c.toNat ≤ 0x7e
  /-- As many parentheses are closed as are opened. -/
  balanced : text.toList.count '(' = text.toList.count ')'
  /-- No beginning closes more parentheses than it opens. -/
  covered : ∀ front, front <+: text.toList → front.count ')' ≤ front.count '('
  /-- Two slashes stand in one place if the rule has a comment, and in none if it has not. -/
  notes : occurrences "//" text = if rule.comment.isSome then 1 else 0
  /-- No semicolon follows the two slashes. -/
  last : ∀ before after, text = before ++ "//" ++ after → ';' ∉ after.toList
  /-- There is one semicolon, but none in a comparison. -/
  semicolons : text.toList.count ';' = if rule.template = .comparison then 0 else 1
  /-- The line ends in a semicolon exactly when the rule has no comment. -/
  ended : text.toList.getLast? = some ';' ↔ rule.comment = none

/-- What a note may say. -/
def IsNote (text : String) : Prop :=
  (∀ c ∈ text.toList, isVisible c = true ∧ c ≠ ';') ∧ Nests 0 0 text
    ∧ ¬ "//".toList <:+: text.toList

instance (text : String) : Decidable (IsNote text) :=
  have : Decidable (∀ c ∈ text.toList, isVisible c = true ∧ c ≠ ';') :=
    @decidableOfEncoding (fun chars => ∀ c ∈ chars, isVisible c = true ∧ c ≠ ';')
      (fun chars => List.decidableBAll _ chars) text
  have : Decidable (¬ "//".toList <:+: text.toList) :=
    decidableOfEncoding (fun chars => ¬ "//".toList <:+: chars) text
  inferInstanceAs (Decidable (_ ∧ _ ∧ _))

namespace Rule

/-- The semicolon that ends every statement but a comparison. -/
def closing (rule : Rule) : String := if rule.template = .comparison then "" else ";"

/-- What stands behind the statement. -/
def note (rule : Rule) : String := rule.comment.elim "" (" // " ++ ·)

/-- The words of the rule keep to a line: those inside the statement are phrases, the comment is a
note, and a comparison has one. -/
def HasTidyWords (rule : Rule) : Prop :=
  (∀ word ∈ [rule.operator, rule.predicate, rule.intrinsic.getD ""], IsPhrase 0 0 word)
  ∧ (∀ comment ∈ rule.comment, IsNote comment)
  ∧ (rule.template = .comparison → rule.comment.isSome)

instance (rule : Rule) : Decidable rule.HasTidyWords :=
  inferInstanceAs (Decidable (_ ∧ _ ∧ _))

end Rule

/-! ### The parts of a line -/

namespace Rule

variable {rule : Rule}

/-- A semicolon is visible, no slash and no parenthesis. -/
theorem closing_spec (rule : Rule) :
    (∀ c ∈ rule.closing.toList, isVisible c = true ∧ c ≠ '/') ∧ Nests 0 0 rule.closing := by
  rw [closing]
  split
  · exact ⟨nofun, by decide⟩
  · have hsemicolon : ";".toList = [';'] := rfl
    rw [hsemicolon, List.forall_mem_singleton]
    exact ⟨by decide, by decide⟩

namespace HasTidyWords

/-- The note is visible and balanced, and has no semicolon. -/
theorem note_spec (h : rule.HasTidyWords) :
    (∀ c ∈ rule.note.toList, isVisible c = true ∧ c ≠ ';') ∧ Nests 0 0 rule.note := by
  rw [note]
  rcases hcomment : rule.comment with - | comment
  · exact ⟨nofun, by decide⟩
  · obtain ⟨hvisible, hnests, -⟩ := h.2.1 comment hcomment
    -- The comment keeps to this by hypothesis, and the slashes before it do, too.
    have hslashes : ∀ c ∈ " // ".toList, isVisible c = true ∧ c ≠ ';' := by
      have hlist : " // ".toList = [' ', '/', '/', ' '] := rfl
      simp only [hlist, List.forall_mem_cons]
      exact ⟨by decide, by decide, by decide, by decide, nofun⟩
    refine ⟨?_, Nests.append (by decide) hnests⟩
    rw [Option.elim_some, String.toList_append]
    exact List.forall_mem_append.mpr ⟨hslashes, hvisible⟩

/-- The slashes before a comment are the only ones in a row. -/
theorem occurrences_note (h : rule.HasTidyWords) :
    occurrences "//" rule.note = if rule.comment.isSome then 1 else 0 := by
  rw [note]
  rcases hcomment : rule.comment with - | comment
  · rfl
  · have hnone := countP_tails_eq_zero_iff.mpr (h.2.1 comment hcomment).2.2
    have hslashes : (" // " ++ comment).toList = ' ' :: '/' :: '/' :: ' ' :: comment.toList := by
      rw [String.toList_append]
      rfl
    have hpattern : "//".toList = ['/', '/'] := rfl
    rw [hpattern] at hnone
    simp [occurrences, hslashes, hpattern, List.isPrefixOf, hnone]

/-- What ends in the closing and the note ends in a semicolon exactly when there is no comment. -/
theorem getLast?_append (h : rule.HasTidyWords) (lead : String) :
    (lead ++ rule.closing ++ rule.note).toList.getLast? = some ';' ↔ rule.comment = none := by
  have hnote := h.note_spec.1
  rw [String.toList_append]
  rcases hcomment : rule.comment with - | comment
  · -- Without a comment it is no comparison, so the closing is there and nothing follows it.
    have htemplate : rule.template ≠ .comparison := by
      intro htemplate
      simpa [hcomment] using h.2.2 htemplate
    simp [closing, note, htemplate, hcomment]
  · -- With one the note comes last, and a note has no semicolon at all.
    have hsome : rule.note.toList ≠ [] := by
      rw [note, hcomment, Option.elim_some, String.toList_append]
      exact List.append_ne_nil_of_left_ne_nil (by decide) _
    rw [List.getLast?_append_of_ne_nil _ hsome]
    refine iff_of_false ?_ (Option.some_ne_none _)
    intro hlast
    exact (hnote _ (List.mem_of_getLast? hlast)).2 rfl

end HasTidyWords

end Rule

/-- **The parts of a line.**  A phrase makes a line with the closing and the note of a rule. -/
theorem isLine_of_isPhrase {rule : Rule} {lead : String} (hwords : rule.HasTidyWords)
    (hlead : IsPhrase 0 0 lead) : IsLine rule (lead ++ rule.closing ++ rule.note) := by
  obtain ⟨hclosing, hnests⟩ := rule.closing_spec
  obtain ⟨hnote, hnests'⟩ := hwords.note_spec
  have hplain : ∀ c ∈ lead.toList, isVisible c = true ∧ c ≠ ';' ∧ c ≠ '/' := by
    intro c hc
    simpa [isPlain] using hlead.1 c hc
  have hvisible : ∀ c ∈ (lead ++ rule.closing ++ rule.note).toList, isVisible c = true := by
    simp only [String.toList_append, List.forall_mem_append]
    exact ⟨⟨fun c hc => (hplain c hc).1, fun c hc => (hclosing c hc).1⟩, fun c hc => (hnote c hc).1⟩
  have hbalance := (hlead.2.append hnests).append hnests'
  -- No slash stands before the note, and no semicolon in it.
  have hslash : '/' ∉ (lead ++ rule.closing).toList := by
    rw [String.toList_append, List.mem_append, not_or]
    exact ⟨fun hc => (hplain _ hc).2.2 rfl, fun hc => (hclosing _ hc).2 rfl⟩
  have hlast : ';' ∉ rule.note.toList := fun hc => (hnote _ hc).2 rfl
  refine
    { printable := ?_, balanced := ?_, covered := ?_, notes := ?_, last := ?_, semicolons := ?_,
      ended := hwords.getLast?_append lead }
  · intro c hc
    simpa [isVisible] using hvisible c hc
  · simpa using hbalance.1
  · intro front hfront
    simpa using hbalance.2 front ((List.mem_inits _ _).mpr hfront)
  · have hpattern : "//".toList = ['/', '/'] := rfl
    rw [← hwords.occurrences_note, occurrences, occurrences, String.toList_append, hpattern,
      countP_tails_append hslash]
  · intro before after hsplit
    -- Slashes stand in the note only, so what begins with two of them is an end of the note.
    have hend : '/' :: '/' :: after.toList
        <:+ (lead ++ rule.closing).toList ++ rule.note.toList := by
      rw [← String.toList_append, hsplit, String.append_assoc, String.toList_append]
      exact ⟨before.toList, by rw [String.toList_append]; rfl⟩
    intro hc
    exact hlast ((isSuffix_of_isSuffix_append hslash hend).subset (by simp [hc]))
  · have hnone : lead.toList.count ';' = 0 :=
      List.count_eq_zero.mpr fun hc => (hplain _ hc).2.1 rfl
    rw [String.toList_append, String.toList_append, List.count_append, List.count_append, hnone,
      List.count_eq_zero.mpr hlast, Rule.closing]
    split <;> rfl

/-! ### Sentences -/

/-- The sentence up to the semicolon or the note. -/
def Sentence.lead : Sentence → String
  | .assignment joint destination value => destination ++ joint ++ value.text
  | .comparison _ first second => "compare(" ++ first ++ ", " ++ second ++ ")"
  | .call target => "(" ++ target ++ ")()"
  | .jump target => "goto " ++ target
  | .branch condition _ target => "if (" ++ condition ++ ") goto " ++ target
  | .store aligned suffix target sources =>
    (Rule.move aligned suffix).moveName "store" ++ "(" ++ target ++ ", "
      ++ ", ".intercalate sources ++ ")"

namespace Rule

variable {rule : Rule} {site : Site}

/-- A sentence is its lead, the closing of the rule and its note. -/
theorem text_sentence (hwords : rule.HasTidyWords) (hessential : rule.essential = rule) :
    (rule.sentence site).text = (rule.sentence site).lead ++ rule.closing ++ rule.note := by
  have hcomment := congrArg Rule.comment hessential
  rw [essential] at hcomment
  -- By `hcomment` only comparisons and conditional branches have a comment, so all others end in
  -- the semicolon.
  rw [sentence, closing, note]
  cases htemplate : rule.template with
  | assignment =>
    simp only [htemplate, assign] at hcomment
    by_cases hoperator : rule.operator = " = &"
    · simp [hoperator, ← hcomment, Sentence.text, Sentence.lead]
    · simp [hoperator, ← hcomment, Sentence.text, Sentence.lead]
  | comparison =>
    obtain ⟨comment, hsome⟩ := Option.isSome_iff_exists.mp (hwords.2.2 htemplate)
    -- The parenthesis of a comparison is written with the slashes and belongs to the lead.
    have hsplit : ") // " ++ comment = ")" ++ (" // " ++ comment) :=
      (String.append_assoc : ")" ++ " // " ++ comment = _)
    simp [hsome, Sentence.text, Sentence.lead, hsplit, String.append_assoc]
  | call =>
    simp only [htemplate] at hcomment
    have hsplit : ")();" = ")()" ++ ";" := rfl
    simp [← hcomment, Sentence.text, Sentence.lead, hsplit, String.append_assoc]
  | jump =>
    simp only [htemplate] at hcomment
    simp [← hcomment, Sentence.text, Sentence.lead]
  | conditionalBranch => simp [Sentence.text, Sentence.lead]
  | vectorMove =>
    simp only [htemplate, move] at hcomment
    have hsplit : ");" = ")" ++ ";" := rfl
    by_cases hstore : site.addressesMemory 0 = true
    · simp [hstore, ← hcomment, Sentence.text, Sentence.lead, hsplit, String.append_assoc]
    · by_cases hload : site.addressesMemory 1 = true
      · simp [hstore, hload, ← hcomment, Sentence.text, Sentence.lead]
      · simp [hstore, hload, ← hcomment, Sentence.text, Sentence.lead]
  | vectorFunction =>
    simp only [htemplate, vector] at hcomment
    simp [← hcomment, Sentence.text, Sentence.lead]

theorem HasTidyWords.isPhrase_moveName {verb : String} (h : rule.HasTidyWords)
    (hverb : IsPhrase 0 0 verb) :
    IsPhrase 0 0 ((move rule.aligned (rule.intrinsic.getD "")).moveName verb) := by
  have halignment : IsPhrase 0 0 (if rule.aligned then "aligned" else "unaligned") := by
    split <;> decide
  have hvector : IsPhrase 0 0 "vector_" := by decide
  have hbar : IsPhrase 0 0 "_" := by decide
  have hsuffix : IsPhrase 0 0 (rule.intrinsic.getD "") := h.1 _ (by simp)
  exact (((hvector.append halignment).append hbar).append hverb).append hsuffix

theorem HasTidyWords.isPhrase_intrinsicName (h : rule.HasTidyWords) :
    IsPhrase 0 0 rule.intrinsicName := by
  have hname : IsPhrase 0 0 (rule.intrinsic.getD "") := h.1 _ (by simp)
  rw [intrinsicName]
  rcases hn : rule.intrinsic with - | name
  · decide
  · by_cases hempty : name = ""
    · subst hempty
      decide
    · rw [Option.filter_some_pos (by simpa using hempty)]
      simpa [hn] using hname

/-- The lead of a sentence closes every parenthesis that its operands and its words open. -/
theorem isPhrase_lead_sentence (hwords : rule.HasTidyWords)
    (hprinted : ∀ text ∈ rule.printed site, IsPhrase 0 0 text) :
    IsPhrase 0 0 (rule.sentence site).lead := by
  -- Operands and words are phrases at depth zero, hence also inside the parentheses that the
  -- templates open around them.
  have hcomma : IsPhrase 1 1 ", " := by decide
  have hclosing : IsPhrase 1 0 ")" := by decide
  have hopening : IsPhrase 0 1 "(" := by decide
  -- What the rule prints are the operands of its sentence, in the order of the template.
  rw [← operands_sentence] at hprinted
  rw [sentence] at hprinted ⊢
  cases htemplate : rule.template with
  | assignment =>
    simp only [htemplate] at hprinted ⊢
    by_cases haddress : rule.operator = " = &"
    · simp only [if_pos haddress, Sentence.operands, Expression.operands, List.forall_mem_cons]
        at hprinted ⊢
      -- The only operator that is no word of its own: it is an equals sign and the mark of an
      -- address.
      have hjoint : IsPhrase 0 0 " = " := by decide
      have hmark : IsPhrase 0 0 "&" := by decide
      exact (hprinted.1.append hjoint).append (hmark.append hprinted.2.1)
    · simp only [if_neg haddress, Sentence.operands, Expression.operands, List.forall_mem_cons]
        at hprinted ⊢
      exact (hprinted.1.append (hwords.1 _ (by simp))).append hprinted.2.1
  | comparison =>
    simp only [htemplate, Sentence.operands, List.forall_mem_cons] at hprinted ⊢
    have hcompare : IsPhrase 0 1 "compare(" := by decide
    exact (((hcompare.append (hprinted.1.atDepth 1)).append hcomma).append
      (hprinted.2.1.atDepth 1)).append hclosing
  | call =>
    simp only [htemplate, Sentence.operands, List.forall_mem_cons] at hprinted ⊢
    have hcall : IsPhrase 1 0 ")()" := by decide
    exact hopening.enclosed hprinted.1 hcall
  | jump =>
    simp only [htemplate, Sentence.operands, List.forall_mem_cons] at hprinted ⊢
    have hgoto : IsPhrase 0 0 "goto " := by decide
    exact hgoto.append hprinted.1
  | conditionalBranch =>
    simp only [htemplate, Sentence.operands, List.forall_mem_cons] at hprinted ⊢
    have hif : IsPhrase 0 1 "if (" := by decide
    have hgoto : IsPhrase 1 0 ") goto " := by decide
    have hcondition : IsPhrase 0 0 rule.predicate := hwords.1 _ (by simp)
    exact (hif.enclosed hcondition hgoto).append hprinted.1
  | vectorMove =>
    simp only [htemplate] at hprinted ⊢
    have hjoint : IsPhrase 0 0 " = " := by decide
    by_cases hstore : site.addressesMemory 0 = true
    · simp only [if_pos hstore, Sentence.operands, List.forall_mem_cons] at hprinted ⊢
      exact (((((hwords.isPhrase_moveName (by decide)).append hopening).append
        (hprinted.1.atDepth 1)).append hcomma).append
        ((isPhrase_intercalate hprinted.2).atDepth 1)).append hclosing
    · by_cases hload : site.addressesMemory 1 = true
      · simp only [if_neg hstore, if_pos hload, Sentence.operands, List.forall_mem_cons]
          at hprinted ⊢
        have hverb : IsPhrase 0 0 "load" := by decide
        have hname := (hwords.isPhrase_moveName hverb).append hopening
        exact (hprinted.1.append hjoint).append
          (hname.enclosed (isPhrase_intercalate hprinted.2) hclosing)
      · simp only [if_neg hstore, if_neg hload, Sentence.operands, List.forall_mem_cons]
          at hprinted ⊢
        exact (hprinted.1.append hjoint).append (isPhrase_intercalate hprinted.2)
  | vectorFunction =>
    simp only [htemplate, Sentence.operands, List.forall_mem_cons] at hprinted ⊢
    have hjoint : IsPhrase 0 0 " = " := by decide
    have hname := hwords.isPhrase_intrinsicName.append hopening
    exact (hprinted.1.append hjoint).append
      (hname.enclosed (isPhrase_intercalate hprinted.2) hclosing)

/-- **A statement is a line.**  If the words of the rule keep to a line, then so does a statement
without a fault, whatever the operands are. -/
theorem isLine_statement (hwords : rule.HasTidyWords) (hessential : rule.essential = rule)
    (h : (rule.statement site).fault = none) : IsLine rule (rule.statement site).text := by
  have hprinted : ∀ text ∈ rule.printed site, IsPhrase 0 0 text := by
    rw [printed, List.forall_mem_map]
    intro index hindex
    exact site.isPhrase_operand (((rule.fault_statement_eq_none_iff site).mp h).1 index hindex)
  -- Without a fault the statement is its sentence, which is put together like a line.
  rw [rule.text_statement site hessential h, text_sentence hwords hessential]
  exact isLine_of_isPhrase hwords (isPhrase_lead_sentence hwords hprinted)

end Rule

end X86Gloss
