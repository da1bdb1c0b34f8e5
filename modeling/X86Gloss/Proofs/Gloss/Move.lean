/-
X86Gloss/Proofs/Gloss/Move.lean

Vector moves and their sources. The form of a vector move is chosen by the operands that are there,
its sources are those that are visible; so a move may be told that shows no source. This happens
exactly if the instruction shows no more than one operand (`RuleTable.move_shows_source_iff`). A
store does so even where there is no operand but the destination; the other forms ask for a second
one, which they need not show.
-/
import X86Gloss.Proofs.Gloss.Unambiguous
import X86Gloss.Proofs.Operand.Rendering
import X86Gloss.Proofs.Statement.Length

namespace X86Gloss

/-! ### Forms -/

/-- The forms of a vector move. -/
inductive MoveForm where
  | store
  | load
  | assignment
deriving DecidableEq

/-- A vector move with memory as its destination is a store, one with memory as its second operand
a load. -/
def Site.moveForm (site : Site) : MoveForm :=
  if site.addressesMemory 0 then .store
  else if site.addressesMemory 1 then .load
  else .assignment

/-- A vector move written down, with its sources in one text. -/
def Rule.moveText (rule : Rule) (form : MoveForm) (target arguments : String) : String :=
  match form with
  | .store => rule.moveName "store" ++ "(" ++ target ++ ", " ++ arguments ++ ");"
  | .load => target ++ " = " ++ rule.moveName "load" ++ "(" ++ arguments ++ ");"
  | .assignment => target ++ " = " ++ arguments ++ ";"

/-- The sources of a site as a vector move shows them. -/
def Site.moveArguments (site : Site) : String := ", ".intercalate site.sourceTexts

theorem Rule.text_sentence_of_move {rule : Rule} (site : Site) (h : rule.template = .vectorMove) :
    (rule.sentence site).text
      = rule.moveText site.moveForm (site.operand 0).text site.moveArguments := by
  unfold sentence Site.moveForm
  simp only [h]
  by_cases hstore : site.addressesMemory 0 = true
  · simp only [if_pos hstore]
    rfl
  · by_cases hload : site.addressesMemory 1 = true
    · simp only [if_neg hstore, if_pos hload, Sentence.text, Expression.text, moveText,
        String.append_assoc]
      rfl
    · simp only [if_neg hstore, if_neg hload]
      rfl

/-! ### Sources -/

/-- All operands are rendered, and none to an empty text. -/
def Site.IsShowable (site : Site) : Prop :=
  ∀ operand ∈ site.operands, ∃ text, operand.Renders site.address text ∧ text ≠ ""

namespace Site.IsShowable

variable {site : Site}

theorem fault_operand_eq_none_iff (h : site.IsShowable) {index : Nat} :
    (site.operand index).fault = none ↔ index < site.operands.length := by
  refine site.fault_operand_eq_none_iff fun operand hoperand => ?_
  obtain ⟨text, hrenders, -⟩ := h operand hoperand
  exact (Operand.renders_iff.mp hrenders).1

theorem text_operand_ne (h : site.IsShowable) {index : Nat} (hlt : index < site.operands.length) :
    (site.operand index).text ≠ "" := by
  obtain ⟨text, hrenders, hnonempty⟩ := h _ (List.getElem_mem hlt)
  rw [site.operand_of_getElem? (List.getElem?_eq_getElem hlt),
    ← (Operand.renders_iff.mp hrenders).2]
  exact hnonempty

/-- The sources make up a text if there are any, which is so if a second operand is visible. -/
theorem moveArguments_ne_iff (h : site.IsShowable)
    (hsources : ∀ index ∈ site.sourceIndices, (site.operand index).fault = none) :
    site.moveArguments ≠ "" ↔ 1 < site.instruction.visible := by
  rw [Site.moveArguments, Site.sourceTexts]
  -- The first source decides: without one the text is empty, and with one it is not, whether others
  -- follow or not.
  rcases hcount : (site.instruction.visible - 1).toNat with - | count
  · have hnone : site.sourceIndices = [] := by
      rw [Site.sourceIndices, hcount]
      rfl
    rw [hnone]
    refine ⟨fun hne => absurd rfl hne, fun hmany => ?_⟩
    omega
  · have hindices : site.sourceIndices = 1 :: List.range' 2 count := by
      rw [Site.sourceIndices, hcount, List.range'_succ]
    have hfirst := h.text_operand_ne
      (h.fault_operand_eq_none_iff.mp (hsources 1 (hindices ▸ List.mem_cons_self)))
    rw [hindices, List.map_cons]
    refine ⟨fun _ => by omega, fun _ => ?_⟩
    cases List.range' 2 count with
    | nil => simpa using hfirst
    | cons second rest => simp [String.intercalate_cons_cons]

/-- A vector move of such operands has no fault if the visible ones are there, and a second one
unless it is a store. -/
theorem fault_statement_eq_none_iff {rule : Rule} (h : site.IsShowable)
    (hmove : rule.template = .vectorMove) (hpresent : site.operands ≠ []) :
    (rule.statement site).fault = none
      ↔ site.instruction.visible ≤ site.operands.length
        ∧ (site.addressesMemory 0 = false → 1 < site.operands.length) := by
  have hpositive := List.length_pos_iff.mpr hpresent
  rw [Rule.fault_statement_eq_none_iff, Rule.printedIndices, hmove]
  simp only [List.forall_mem_cons, h.fault_operand_eq_none_iff, Site.sourceIndices,
    List.mem_range'_1, true_imp_iff]
  refine and_congr_left' ⟨?_, ?_⟩
  · rintro ⟨-, hsources⟩
    -- If an operand were missing, the index behind the last one would be among the visible ones.
    by_contra hmany
    have := hsources site.operands.length (by omega)
    omega
  · intro hvisible
    refine ⟨hpositive, fun index hindex => by omega⟩

end Site.IsShowable

/-! ### Calls -/

namespace RuleTable

/-- A reply holds the answer of the call. -/
theorem answer_of_gloss {table : RuleTable} {request : Request} {buffer : Option (List UInt8)}
    {reply : Reply} (h : table.gloss request buffer = .ok reply) :
    (table.call request buffer).answer = .ok reply.result := by
  rw [gloss, Call.reply] at h
  rcases hanswer : (table.call request buffer).answer with refusal | result
  · rw [hanswer] at h
    cases h
  · rw [hanswer] at h
    cases h
    rfl

variable {site : Site} {rule : Rule}

/-- **A vector move shows a source exactly if a second operand is visible.**  Told of operands that
all have texts, it is a store, a load or an assignment with its visible operands but the first as
its sources; and these are a text unless no more than one operand is visible. With enough room it
is told if all visible operands are there and, unless it is a store, at least two. -/
theorem move_shows_source_iff (hrule : standardRule? site.instruction.mnemonic = some rule)
    (hmove : rule.template = .vectorMove) (hshown : site.IsShowable) :
    (∀ (given : Option Int) (buffer : Option (List UInt8)) (reply : Reply),
      standard.gloss (site.request given) buffer = .ok reply → reply.result.outcome = .success →
      reply.result.text
          = rule.moveText site.moveForm (site.operand 0).text site.moveArguments
        ∧ (site.moveArguments ≠ "" ↔ 1 < site.instruction.visible))
    ∧ ∀ (given : Option Int) (buffer : List UInt8) (capacity : Nat),
      (site.request given).Valid buffer.length site capacity →
      98 * max 2 site.instruction.visible + 100 < capacity →
      ∃ reply, standard.gloss (site.request given) (some buffer) = .ok reply
        ∧ (reply.result.outcome = .success
          ↔ site.instruction.visible ≤ site.operands.length
            ∧ (site.addressesMemory 0 = false → 1 < site.operands.length)) := by
  have hrule' : standard.rule? site.instruction.mnemonic = some rule :=
    (rule?_standard _).trans hrule
  constructor
  · -- A success has told the whole statement, so its text can be read off the sentence.
    intro given buffer reply hreply hsuccess
    obtain ⟨hfault, htext⟩ := statement_of_success hasAsciiTexts_standard hrule'
      (answer_of_gloss hreply) hsuccess
    have hprinted := ((rule.fault_statement_eq_none_iff site).mp hfault).1
    rw [Rule.printedIndices, hmove] at hprinted
    refine ⟨?_, hshown.moveArguments_ne_iff (List.forall_mem_cons.mp hprinted).2⟩
    rw [htext, rule.text_statement site (essential_of_standardRule? hrule) hfault,
      rule.text_sentence_of_move site hmove]
  · intro given buffer capacity hvalid hroom
    -- The bound on the length of a statement leaves a fault as the only thing that can stop it.
    have hfits : (rule.statement site).text.length < capacity := by
      have hwithin : (rule.statement site).text.length ≤ _ :=
        rule.isWithin_statement site (isBrief_of_standardRule? hrule)
      omega
    have hwords := hasAsciiTexts_standard _ _ hrule'
    rw [← hshown.fault_statement_eq_none_iff hmove hvalid.present]
    rcases hfault : (rule.statement site).fault with - | fault
    · exact ⟨_, gloss_fits hvalid hrule' hwords hfits hfault, fun _ => rfl, fun _ => rfl⟩
    · refine ⟨_, gloss_fault hvalid hrule' hwords hfits hfault, ?_⟩
      constructor
      · intro hsuccess
        cases hsuccess
      · intro hnone
        cases hnone

/-- A load shows the memory that it reads. -/
theorem move_shows_source_vmovdqu :
    ∃ reply arguments, standard.gloss
        (Site.request ⟨⟨.vmovdqu, 2, none, 0⟩,
          [.ofRegister 88, .ofMemory ⟨.direct, 0, 53, 0, 1, none⟩], 0⟩ none)
        (some (List.replicate 300 0)) = .ok reply
      ∧ reply.result.text = (Rule.moveAnywhere "_si").moveText .load "(m128)x0" arguments
      ∧ arguments ≠ "" := by
  have hregister : Operand.Renders (.ofRegister 88) 0 "(m128)x0" :=
    Operand.renders_iff.mpr ⟨by decide +kernel, by decide +kernel⟩
  have hmemory : (Operand.ofMemory ⟨.direct, 0, 53, 0, 1, none⟩).Renders 0 "*(: (i64)a)" :=
    Operand.renders_iff.mpr ⟨by decide +kernel, by decide +kernel⟩
  have hshown : Site.IsShowable ⟨⟨.vmovdqu, 2, none, 0⟩,
      [.ofRegister 88, .ofMemory ⟨.direct, 0, 53, 0, 1, none⟩], 0⟩ :=
    List.forall_mem_cons.mpr ⟨⟨_, hregister, by decide⟩,
      List.forall_mem_singleton.mpr ⟨_, hmemory, by decide⟩⟩
  obtain ⟨htold, hroom⟩ := move_shows_source_iff rfl rfl hshown
  obtain ⟨reply, hreply, hsuccess⟩ := hroom none (List.replicate 300 0) 300
    (Site.valid_request (by decide) (by decide) (by decide)) (by decide)
  obtain ⟨htext, harguments⟩ := htold _ _ _ hreply (hsuccess.mpr ⟨by decide, by decide⟩)
  exact ⟨reply, _, hreply, htext, harguments.mpr (by decide)⟩

/-- A store with nothing but its destination is told, too. So a vector move need not show a
source, though all its operands have texts. -/
theorem not_forall_move_shows_source :
    ¬ ∀ (site : Site) (rule : Rule) (given : Option Int) (buffer : Option (List UInt8))
        (reply : Reply),
      standardRule? site.instruction.mnemonic = some rule → rule.template = .vectorMove →
      site.IsShowable → standard.gloss (site.request given) buffer = .ok reply →
      reply.result.outcome = .success →
      ∃ arguments, arguments ≠ ""
        ∧ reply.result.text = rule.moveText site.moveForm (site.operand 0).text arguments := by
  intro hclaim
  have hmemory : (Operand.ofMemory ⟨.direct, 0, 53, 0, 1, none⟩).Renders 0 "*(: (i64)a)" :=
    Operand.renders_iff.mpr ⟨by decide +kernel, by decide +kernel⟩
  obtain ⟨arguments, hnonempty, htext⟩ := hclaim
    ⟨⟨.movaps, 1, none, 0⟩, [.ofMemory ⟨.direct, 0, 53, 0, 1, none⟩], 0⟩ (.moveAligned "_ps") none
    (some (List.replicate 64 0))
    ⟨⟨.success, "vector_aligned_store_ps(*(: (i64)a), );", some true⟩,
      some (stamp "vector_aligned_store_ps(*(: (i64)a), );" (List.replicate 64 0)), []⟩
    rfl rfl (List.forall_mem_singleton.mpr ⟨_, hmemory, by decide⟩) rfl rfl
  -- The text has room for the destination only.
  have htarget : Rule.moveText (.moveAligned "_ps") .store "*(: (i64)a)" ""
      = "vector_aligned_store_ps(*(: (i64)a), );" := by decide +kernel
  have hsame : Rule.moveText (.moveAligned "_ps") .store "*(: (i64)a)" ""
      = Rule.moveText (.moveAligned "_ps") .store "*(: (i64)a)" arguments := htarget.trans htext
  simp only [Rule.moveText, String.append_left_inj, String.append_right_inj] at hsame
  exact hnonempty hsame.symm

end RuleTable

end X86Gloss
