/-
X86Gloss/Proofs/Gloss/Reading.lean

Which operands a call reads. A template names its operands by index: the first, or the first two,
or the first and the visible ones behind it. A vector move that is no store also looks at the
second, to tell a load from an assignment, whether that operand is visible or not. `Rule.Reads`
lists these indices; the length of the operand list and the operands at other indices have no part
in a call.

Two sites are `Rule.Alike` when they differ in such operands only, or in parts of the instruction
that no template looks at. Of an operand that it reads, a template sees the kind and the text; sites
that look the same are `Rule.Resembles`, and `Rule.Resembles.statement_eq` says that their
statements are one emission, faults included. `RuleTable.call_congr_site` takes this to whole calls
of sites that are alike. `call_eq_of_agree` is the case of one instruction with two lists of
operands.
-/
import X86Gloss.Proofs.Gloss.Request
import X86Gloss.Proofs.Statement.Sentence
import X86Gloss.Rule.Standard

namespace X86Gloss

/-! ### What a template reads -/

/-- The template of the rule looks at the operand with the index. -/
def Rule.Reads (rule : Rule) (site : Site) (index : Nat) : Prop :=
  match rule.template with
  | .call | .jump | .conditionalBranch => index = 0
  | .assignment | .comparison => index = 0 ∨ index = 1
  | .vectorFunction => index = 0 ∨ (0 < index ∧ (index : Int) < site.instruction.visible)
  | .vectorMove =>
    index = 0 ∨ (0 < index ∧ (index : Int) < site.instruction.visible)
      ∨ (index = 1 ∧ site.addressesMemory 0 = false)

/-- To the rule one site is like the other: whatever its template looks at is the same. An operand
that is looked at may be missing from both. -/
structure Rule.Alike (rule : Rule) (site other : Site) : Prop where
  mnemonic : site.instruction.mnemonic = other.instruction.mnemonic
  visible : site.instruction.visible = other.instruction.visible
  address : site.address = other.address
  operands : ∀ index, rule.Reads site index → site.operands[index]? = other.operands[index]?

/-! ### What a template sees -/

/-- What a template sees of an operand in an instruction at an address: the kind, and the text or
the fault. -/
def Operand.look (address : Int) (operand : Operand) : OperandKind × Emission OperandFault :=
  (operand.kind, operand.emission address)

/-- What a template sees of the operand with the index, if there is one. -/
def Site.look? (site : Site) (index : Nat) : Option (OperandKind × Emission OperandFault) :=
  (site.operands[index]?).map (Operand.look site.address)

/-- To the rule one site looks like the other. -/
structure Rule.Resembles (rule : Rule) (site other : Site) : Prop where
  mnemonic : site.instruction.mnemonic = other.instruction.mnemonic
  visible : site.instruction.visible = other.instruction.visible
  looks : ∀ index, rule.Reads site index → site.look? index = other.look? index

namespace Rule

variable {rule : Rule} {site other : Site}

/-- Every template reads the first operand. -/
theorem reads_zero (rule : Rule) (site : Site) : rule.Reads site 0 := by
  unfold Reads
  cases rule.template with
  | call | jump | conditionalBranch => rfl
  | assignment | comparison | vectorFunction | vectorMove => exact .inl rfl

theorem Alike.resembles (h : rule.Alike site other) : rule.Resembles site other where
  mnemonic := h.mnemonic
  visible := h.visible
  looks := by
    intro index hreads
    rw [Site.look?, Site.look?, h.operands index hreads, h.address]

namespace Resembles

/-- An operand that is read has the same text in both sites, or the same fault. -/
theorem operand_eq (h : rule.Resembles site other) {index : Nat} (hreads : rule.Reads site index) :
    site.operand index = other.operand index := by
  have hlook := h.looks index hreads
  rw [Site.look?, Site.look?] at hlook
  -- The operand is there in both sites or in neither, and then the fault names the mnemonic, which
  -- is the same.
  rcases hoperand : site.operands[index]? with - | operand <;>
    rcases hother : other.operands[index]? with - | operand' <;>
    rw [hoperand, hother] at hlook
  · simp only [Site.operand, hoperand, hother, Site.missing, h.mnemonic]
  · cases hlook
  · cases hlook
  · simp only [Site.operand, hoperand, hother]
    exact congrArg Prod.snd (Option.some.inj hlook)

/-- A list of operands that are all read is the same in both sites. -/
theorem listed_eq (h : rule.Resembles site other) (index count : Nat)
    (hreads : ∀ i, index ≤ i → i < index + count → rule.Reads site i) :
    site.listed (site.operands.drop index) index count
      = other.listed (other.operands.drop index) index count := by
  -- On the number of operands that are left; the comma depends on it alone.
  induction count generalizing index with
  | zero => rw [Site.listed_zero, Site.listed_zero]
  | succ count ih =>
    have hoperand := h.operand_eq (hreads index (Nat.le_refl index) (by omega))
    have hrest := ih (index + 1) fun i hle hlt => hreads i (by omega) (by omega)
    rw [Site.listed_drop_succ, Site.listed_drop_succ, hoperand, hrest]

/-- So are the visible operands behind the first. -/
theorem sources_eq (h : rule.Resembles site other)
    (hreads : ∀ index : Nat, 0 < index → (index : Int) < site.instruction.visible →
      rule.Reads site index) :
    site.sources = other.sources := by
  unfold Site.sources
  rw [← h.visible]
  exact h.listed_eq 1 _ fun index hle hlt => hreads index hle (by omega)

/-- A vector move takes the same form in both sites. -/
theorem vectorMove_eq (h : rule.Resembles site other) (htemplate : rule.template = .vectorMove) :
    rule.vectorMove site = rule.vectorMove other := by
  have hdestination := h.operand_eq (reads_zero rule site)
  have hsources := h.sources_eq fun index hpositive hvisible => by
    rw [Reads, htemplate]
    exact .inr (.inl ⟨hpositive, hvisible⟩)
  have hfirst := h.looks 0 (reads_zero rule site)
  have hsecond : site.addressesMemory 0 = false → site.look? 1 = other.look? 1 := by
    intro hstore
    refine h.looks 1 ?_
    rw [Reads, htemplate]
    exact .inr (.inr ⟨rfl, hstore⟩)
  have hmissing : site.missing = other.missing := by
    funext index
    rw [Site.missing, Site.missing, h.mnemonic]
  -- Operands that look the same are both in memory, or neither is.
  have hmemory : ∀ {address address' : Int} {operand operand' : Operand},
      some (operand.look address) = some (operand'.look address') →
      operand.addressesMemory = operand'.addressesMemory := by
    intro address address' operand operand' hlook
    have hkind : operand.kind = operand'.kind := congrArg Prod.fst (Option.some.inj hlook)
    rw [Operand.addressesMemory, Operand.addressesMemory, hkind]
  obtain ⟨instruction, operands, address⟩ := site
  obtain ⟨instruction', operands', address'⟩ := other
  rcases operands with - | ⟨destination, rest⟩ <;> rcases operands' with - | ⟨destination', rest'⟩
  · simp only [vectorMove, hmissing]
  · cases hfirst
  · cases hfirst
  have hsame := hmemory hfirst
  by_cases hstore : destination.addressesMemory = true
  · simp only [vectorMove, if_pos hstore, if_pos (hsame ▸ hstore), hdestination, hsources]
  have hlook := hsecond (by simpa [Site.addressesMemory] using hstore)
  rcases rest with - | ⟨source, rest⟩ <;> rcases rest' with - | ⟨source', rest'⟩
  · simp only [vectorMove, if_neg hstore, if_neg (hsame ▸ hstore), hmissing]
  · cases hlook
  · cases hlook
  simp only [vectorMove, if_neg hstore, if_neg (hsame ▸ hstore), hmemory hlook, hdestination,
    hsources]

/-- Sites that look alike have one statement. -/
theorem statement_eq (h : rule.Resembles site other) :
    rule.statement site = rule.statement other := by
  have hfirst := h.operand_eq (reads_zero rule site)
  suffices hbody : rule.body site = rule.body other by rw [statement, statement, hbody]
  unfold body
  rcases htemplate : rule.template with _ | _ | _ | _ | _ | _ | _
  case assignment | comparison =>
    have hsecond : site.operand 1 = other.operand 1 := by
      refine h.operand_eq ?_
      rw [Reads, htemplate]
      exact .inr rfl
    simp only [hfirst, hsecond]
  case call | jump | conditionalBranch => simp only [hfirst]
  case vectorMove => exact h.vectorMove_eq htemplate
  case vectorFunction =>
    have hsources := h.sources_eq fun index hpositive hvisible => by
      rw [Reads, htemplate]
      exact .inr ⟨hpositive, hvisible⟩
    simp only [hfirst, hsources]

end Resembles

end Rule

/-! ### What a call reads -/

namespace RuleTable

variable {table : RuleTable} {site other : Site}

/-- Sites that are alike to their rule, if there is one, come to the same draft. -/
theorem draft_congr (hmnemonic : site.instruction.mnemonic = other.instruction.mnemonic)
    (haddress : site.address = other.address)
    (halike : ∀ rule, table.rule? site.instruction.mnemonic = some rule → rule.Alike site other)
    (sink : Sink) : table.draft site sink = table.draft other sink := by
  simp only [draft, ← hmnemonic, ← haddress, noRuleRow, noRoomRow]
  rcases hrule : table.rule? site.instruction.mnemonic with - | rule
  · rfl
  · simp only [rule.writes_write site sink, rule.writes_write other sink,
      (halike rule hrule).resembles.statement_eq]

/-- The sites of two requests decide what the calls come to. Of the operand counts only matters
whether they are zero. -/
theorem call_congr_site (site other : Site)
    (hoperands : site.operands ≠ []) (hother : other.operands ≠ [])
    (hcount : site.instruction.operandCount = 0 ↔ other.instruction.operandCount = 0)
    (hmnemonic : site.instruction.mnemonic = other.instruction.mnemonic)
    (haddress : site.address = other.address)
    (halike : ∀ rule, table.rule? site.instruction.mnemonic = some rule → rule.Alike site other)
    (given : Option Int) (buffer : Option (List UInt8)) :
    table.call (site.request given) buffer = table.call (other.request given) buffer := by
  have hdraft := draft_congr hmnemonic haddress halike
  obtain ⟨instruction, operands, address⟩ := site
  obtain ⟨instruction', operands', address'⟩ := other
  obtain ⟨operand, rest, rfl⟩ := List.exists_cons_of_ne_nil hoperands
  obtain ⟨operand', rest', rfl⟩ := List.exists_cons_of_ne_nil hother
  simp only at hcount hmnemonic haddress
  by_cases hzero : instruction.operandCount = 0
  · simp only [call, Site.request, Request.check, if_pos hzero, if_pos (hcount.mp hzero),
      Option.map_some, hmnemonic]
  have hzero' : instruction'.operandCount ≠ 0 := fun h => hzero (hcount.mpr h)
  simp only [call, Site.request, Request.check, if_neg hzero, if_neg hzero', Option.map_some,
    hmnemonic]
  rcases buffer with - | buffer
  · rfl
  rcases hcapacity : Capacity.of buffer.length given with fault | capacity
  · simp only [hcapacity]
  · simp only [hcapacity, perform, Job.sink, hdraft]

/-- **Operands that are not read have no influence.**  Let a mnemonic have a rule. Then a call with
one list of operands and a call with another, both nonempty, leave the same answer, the same buffer
and the same rows whenever the lists agree at the indices that the rule reads, be it that neither
has an operand there. -/
theorem call_eq_of_agree {instruction : Instruction} {rule : Rule}
    (hrule : table.rule? instruction.mnemonic = some rule) {first second : List Operand}
    (hfirst : first ≠ []) (hsecond : second ≠ []) (address : Int)
    (hagree : ∀ index, rule.Reads ⟨instruction, first, address⟩ index →
      first[index]? = second[index]?)
    (given : Option Int) (buffer : Option (List UInt8)) :
    table.call ⟨some instruction, some first, address, given⟩ buffer
      = table.call ⟨some instruction, some second, address, given⟩ buffer := by
  have halike : ∀ rule', table.rule? instruction.mnemonic = some rule' →
      rule'.Alike ⟨instruction, first, address⟩ ⟨instruction, second, address⟩ := by
    intro rule' hrule'
    cases hrule.symm.trans hrule'
    exact ⟨rfl, rfl, rfl, hagree⟩
  exact call_congr_site ⟨instruction, first, address⟩ ⟨instruction, second, address⟩ hfirst hsecond
    Iff.rfl rfl rfl halike given buffer

/-- With one visible operand a vector move prints no source. It still looks at the second operand,
which makes it a load, but not at a third one, be that a far pointer or not there. -/
theorem call_movaps_hidden_pointer :
    standard.call ⟨some ⟨.movaps, 3, some 1, 0⟩, some [.ofRegister 88,
        .ofMemory ⟨.direct, 0, 53, 0, 1, none⟩, .ofPointer ⟨1, 2⟩], 0, none⟩
        (some (List.replicate 64 0xff))
      = standard.call ⟨some ⟨.movaps, 3, some 1, 0⟩, some [.ofRegister 88,
        .ofMemory ⟨.direct, 0, 53, 0, 1, none⟩], 0, none⟩ (some (List.replicate 64 0xff)) := by
  have hrule : standard.rule? .movaps = some (Rule.moveAligned "_ps") := rfl
  refine call_eq_of_agree hrule (by decide) (by decide) 0 ?_ none _
  rintro index (rfl | ⟨hpositive, hlt⟩ | ⟨rfl, -⟩)
  · rfl
  · have hvisible : (index : Int) < 1 := hlt
    omega
  · rfl

end RuleTable

end X86Gloss
