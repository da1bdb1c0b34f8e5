/-
X86Gloss/Proofs/Gloss/Unambiguous.lean

A statement of the standard table can be read in one way only: its text determines the rule that
tells it and the texts of the operands that the rule prints. Two things stand in the way of this
and are excluded (`Site.Tells`). A move between registers has no words of its own; and an operand
with an empty text is not seen.

The rule in turn determines the mnemonic, except that a vector operation has the same statement
with and without the letter `v` before its mnemonic (`eq_or_sibling_of_standardRule?`).
-/
import X86Gloss.Proofs.Gloss.Cut
import X86Gloss.Proofs.Rule.Standard

namespace X86Gloss

/-! ### Calls that succeed -/

/-- A request for a site that passes its checks has a job at this site. -/
theorem site_of_check_request {site : Site} {given : Option Int} {buffer : Option (List UInt8)}
    {job : Job} (h : (site.request given).check buffer = .ok job) : job.site = site := by
  obtain ⟨instruction, operands, address⟩ := site
  rcases operands with - | ⟨operand, operands⟩
  · cases h
  simp only [Site.request, Request.check] at h
  split at h
  · cases h
  · rcases buffer with - | buffer
    · cases h
    · rcases hcapacity : Capacity.of buffer.length given with fault | capacity
      · simp only [hcapacity] at h
        cases h
      · simp only [hcapacity] at h
        cases h
        rfl

namespace RuleTable

variable {table : RuleTable}

/-- What a call answers after success is a whole statement without a fault. -/
theorem statement_of_success {site : Site} {given : Option Int} {buffer : Option (List UInt8)}
    {result : Result} {rule : Rule} (hascii : table.HasAsciiTexts)
    (hrule : table.rule? site.instruction.mnemonic = some rule)
    (hanswer : (table.call (site.request given) buffer).answer = .ok result)
    (hsuccess : result.outcome = .success) :
    (rule.statement site).fault = none ∧ result.text = (rule.statement site).text := by
  rcases hcheck : (site.request given).check buffer with fault | job
  · simp only [call, hcheck] at hanswer
    cases hanswer
    cases hsuccess
  simp only [call, hcheck, perform, site_of_check_request hcheck] at hanswer
  -- The call did not refuse the request, so it ended in one of three ways, and only the first is a
  -- success.
  have hsink : job.sink.Holds "" := Sink.holds_blank _
  have hwords := hascii _ _ hrule
  rcases Nat.lt_or_ge (rule.statement site).text.length job.sink.capacity with hlt | hge
  · rcases hfault : (rule.statement site).fault with - | fault
    · obtain ⟨final, hdraft, -⟩ := draft_fits hrule hwords hsink hlt hfault
      rw [hdraft] at hanswer
      cases hanswer
      exact ⟨rfl, rfl⟩
    · rw [draft_fault hrule hwords hsink hlt hfault] at hanswer
      cases hanswer
      cases hsuccess
  · obtain ⟨before, piece, hcut⟩ := Emission.exists_cutAt job.capacity.2.1 hge
    obtain ⟨final, hdraft, -⟩ := draft_cut hrule hwords hsink hcut
    rw [hdraft] at hanswer
    cases hanswer
    cases hsuccess

end RuleTable

/-- A call with the standard table tells the site as a text, by a rule; the rule prints no empty
operand, and is not that of a vector move between registers. -/
structure Site.Tells (site : Site) (rule : Rule) (text : String) : Prop where
  told : ∃ given buffer result,
    (RuleTable.standard.call (site.request given) buffer).answer = .ok result
      ∧ result.outcome = .success ∧ result.text = text
  known : RuleTable.standard.rule? site.instruction.mnemonic = some rule
  shown : "" ∉ rule.printed site
  worded : rule.movesRegister site = false

namespace Site

variable {site site' : Site} {rule rule' : Rule} {text : String}

/-- The call may be one for a text. -/
theorem tells_of_glossText {given : Option Int}
    (hrule : RuleTable.standard.rule? site.instruction.mnemonic = some rule)
    (hshown : "" ∉ rule.printed site) (hworded : rule.movesRegister site = false)
    (h : RuleTable.standard.glossText (site.request given) = .ok text) : site.Tells rule text := by
  refine ⟨?_, hrule, hshown, hworded⟩
  simp only [RuleTable.glossText, Call.asText] at h
  split at h
  · cases h
  · rename_i result hanswer
    refine ⟨some (given.getD standardCapacity), _, result, hanswer, ?_⟩
    obtain ⟨verdict, told, listed⟩ := result
    cases verdict with
    | success =>
      cases h
      exact ⟨rfl, rfl⟩
    | _ => cases h

theorem isOperandText_of_mem_printed (h : "" ∉ rule.printed site) :
    ∀ text ∈ rule.printed site, IsOperandText text := by
  intro text htext
  obtain ⟨index, -, hindex⟩ := List.mem_map.mp htext
  obtain ⟨hunmarked, hapart⟩ := site.isUnmarked_isApart_operand index
  rw [hindex] at hunmarked hapart
  exact ⟨fun hempty => h (hempty ▸ htext), hunmarked, hapart⟩

namespace Tells

/-- The text is that of a legible sentence with the words of the rule and the printed operands. -/
theorem exists_sentence (h : site.Tells rule text) :
    ∃ sentence : Sentence, sentence.IsLegible ∧ sentence.text = text ∧ sentence.rule = rule
      ∧ sentence.operands = rule.printed site := by
  obtain ⟨⟨given, buffer, result, hanswer, hsuccess, rfl⟩, hrule, hshown, hworded⟩ := h
  have hstandard := hrule
  rw [RuleTable.rule?_standard] at hstandard
  have hessential := essential_of_standardRule? hstandard
  obtain ⟨hfault, htext⟩ := RuleTable.statement_of_success RuleTable.hasAsciiTexts_standard hrule
    hanswer hsuccess
  -- The words are those of the rule because a standard rule holds no other ones.
  refine ⟨rule.sentence site, ?_, ?_, ?_, rule.operands_sentence site⟩
  · exact Rule.isLegible_sentence (hasLegibleWords_of_standardRule? hstandard)
      (isOperandText_of_mem_printed hshown) hworded
  · rw [htext, rule.text_statement site hessential hfault]
  · rw [rule.rule_sentence site hworded, hessential]

/-- **Standard statements are unambiguous.**  Two sites that are told as the same text are told by
the same rule, with the same texts of operands; their mnemonics are the same too, or siblings that
stand for one vector operation. -/
theorem unambiguous (h : site.Tells rule text) (h' : site'.Tells rule' text) :
    rule = rule' ∧ rule.printed site = rule'.printed site'
    ∧ (site.instruction.mnemonic = site'.instruction.mnemonic
      ∨ rule.template = .vectorFunction
        ∧ site.instruction.mnemonic.IsSibling site'.instruction.mnemonic) := by
  obtain ⟨sentence, hlegible, htext, hrule, hoperands⟩ := h.exists_sentence
  obtain ⟨sentence', hlegible', htext', hrule', hoperands'⟩ := h'.exists_sentence
  obtain rfl := Sentence.text_injective hlegible hlegible' (htext.trans htext'.symm)
  obtain rfl : rule = rule' := hrule.symm.trans hrule'
  refine ⟨rfl, hoperands.symm.trans hoperands', ?_⟩
  have hstandard := h.known
  have hstandard' := h'.known
  rw [RuleTable.rule?_standard] at hstandard hstandard'
  exact eq_or_sibling_of_standardRule? hstandard hstandard'

set_option maxRecDepth 10000 in
/-- The statement of a vector operation, told of both its mnemonics. -/
theorem unambiguous_pand :
    Tells ⟨⟨.pand, 2, none, 0⟩, [.ofRegister 88, .ofRegister 89], 0⟩ (.vector "_mm_and_si")
        "(m128)x0 = _mm_and_si((m128)x1);"
    ∧ Tells ⟨⟨.vpand, 2, none, 0⟩, [.ofRegister 88, .ofRegister 89], 7⟩ (.vector "_mm_and_si")
        "(m128)x0 = _mm_and_si((m128)x1);"
    ∧ Mnemonic.pand.IsSibling .vpand := by
  have hfirst : Tells ⟨⟨.pand, 2, none, 0⟩, [.ofRegister 88, .ofRegister 89], 0⟩
      (.vector "_mm_and_si") "(m128)x0 = _mm_and_si((m128)x1);" :=
    tells_of_glossText rfl (by decide +kernel) rfl
      (rfl : RuleTable.glossText _ (request _ none) = _)
  have hsecond : Tells ⟨⟨.vpand, 2, none, 0⟩, [.ofRegister 88, .ofRegister 89], 7⟩
      (.vector "_mm_and_si") "(m128)x0 = _mm_and_si((m128)x1);" :=
    tells_of_glossText rfl (by decide +kernel) rfl
      (rfl : RuleTable.glossText _ (request _ none) = _)
  refine ⟨hfirst, hsecond, ?_⟩
  obtain ⟨-, -, hsame | ⟨-, hsibling⟩⟩ := unambiguous hfirst hsecond
  · cases hsame
  · exact hsibling

end Tells

end Site

end X86Gloss
