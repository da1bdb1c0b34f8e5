/-
X86Gloss/Proofs/Operand/Legible.lean

Operands that can be read back from their texts. No two registers have the same text
(`Register.text_emission_inj`); these texts hold no colon, plus or star and begin like no numeral.
So a place in memory is taken apart at its first colon, which ends the segment, and at its first
plus, which ends the base. Behind the plus a numeral is told from an index by how it begins, and an
index with a factor from one without by the star.

What a text does not show is left open: `Operand.Alike` relates operands that differ in such parts
only, and `Operand.renders_same_iff_alike` says that these are the operands of one text.
-/
import X86Gloss.Proofs.Operand.Rendering
import X86Gloss.Proofs.Text.Cuts
import X86Gloss.Proofs.Text.Distinct
import X86Gloss.Proofs.Text.Numeral

namespace X86Gloss

open Emission

/-! ### Registers -/

namespace Register

/-- No two registers of the table have the same text. -/
theorem text_emission_inj {first second : Int} (hfirst : IsId first) (hsecond : IsId second) :
    (emission first).text = (emission second).text ↔ first = second := by
  constructor
  · intro h
    have hnodup : (table.map Register.text).Nodup := nodup_of_textCodes (by decide +kernel)
    have htext : ∀ {id : Int}, IsId id →
        (table.map Register.text)[id.toNat]? = some (emission id).text := by
      intro id hid
      obtain ⟨hnonneg, hbounded⟩ := hid
      have hlt : id.toNat < table.length := by omega
      rw [List.getElem?_map, emission, ofId?, if_pos hnonneg, List.getElem?_eq_getElem hlt]
      simp only [text_piece, Option.map_some]
    have hindex : first.toNat = second.toNat := by
      refine (List.getElem?_inj ?_ hnodup).mp ?_
      · obtain ⟨hnonneg, hbounded⟩ := hfirst
        rw [List.length_map]
        omega
      · rw [htext hfirst, htext hsecond, h]
    rw [← Int.toNat_of_nonneg hfirst.1, ← Int.toNat_of_nonneg hsecond.1, hindex]
  · rintro rfl
    rfl

end Register

/-! ### Signs and beginnings -/

/-- The signs at which the text of a place in memory is taken apart. -/
def isJoint (c : Char) : Bool := [':', '+', '*'].contains c

/-- What a numeral begins with. -/
def beginsNumeral (c : Char) : Bool := c.isDigit || c = '-'

/-- The text holds no joint and begins like no numeral. -/
def IsPlainName (text : String) : Prop :=
  (∀ c ∈ text.toList, isJoint c = false) ∧ text.toList.head?.any beginsNumeral = false

instance (text : String) : Decidable (IsPlainName text) :=
  @decidableOfEncoding
    (fun chars => (∀ c ∈ chars, isJoint c = false) ∧ chars.head?.any beginsNumeral = false)
    (fun chars => @instDecidableAnd _ _ (List.decidableBAll _ chars) inferInstance) text

theorem Register.isPlainName_emission (id : Int) : IsPlainName (emission id).text := by
  have hall : ∀ register ∈ table, IsPlainName register.text := by decide +kernel
  unfold emission
  rcases h : ofId? id with - | register
  · exact ⟨nofun, rfl⟩
  · rw [text_piece]
    exact hall register (mem_table_of_ofId? h)

theorem Register.notMem_emission {c : Char} (hc : isJoint c = true) {id : Int} :
    c ∉ (emission id).text.toList := by
  intro hmem
  rw [(isPlainName_emission id).1 c hmem] at hc
  cases hc

namespace Numeral

theorem beginsNumeral_of_mem_decimal {value : Int} {c : Char} (h : c ∈ (decimal value).toList) :
    beginsNumeral c = true := by
  rw [decimal, String.toList_append, List.mem_append] at h
  rcases h with h | h
  · unfold sign at h
    split at h
    · rw [List.mem_singleton.mp h]
      rfl
    · cases h
  · rw [beginsNumeral, isDigit_of_mem_repr h]
    rfl

/-- Decimal numerals are told apart from names and parentheses by their first character. -/
theorem any_head?_decimal (value : Int) :
    (decimal value).toList.head?.any beginsNumeral = true := by
  rcases htext : (decimal value).toList with - | ⟨c, rest⟩
  · rw [decimal, String.toList_append, List.append_eq_nil_iff] at htext
    exact absurd (String.toList_inj.mp htext.2) Nat.repr_ne_empty
  · have hc : c ∈ (decimal value).toList := htext ▸ List.mem_cons_self
    exact beginsNumeral_of_mem_decimal hc

end Numeral

/-! ### What is added to a base -/

/-- What a place in memory adds to its base, as far as its text shows it. -/
inductive Addend where
  | nothing
  | displacement (value : Int)
  | index (id scale : Int)

namespace Addend

/-- An index, with its factor unless that is one. -/
def indexText (id scale : Int) : String :=
  if scale = 1 then (Register.emission id).text
  else "(" ++ (Register.emission id).text ++ " * " ++ Numeral.unsigned scale ++ ")"

/-- The text behind the plus, if there is one. -/
def shown : Addend → Option String
  | .nothing => none
  | .displacement value => some (String.join (Numeral.signedPieces value))
  | .index id scale => some (indexText id scale)

/-- The table lists the index. -/
def IsListed : Addend → Prop
  | .nothing | .displacement _ => True
  | .index id _ => Register.IsId id

/-- The same is added, as far as 64-bit words tell. A factor of one is not shown, and no other
factor is taken for it. -/
inductive Alike : Addend → Addend → Prop
  | nothing : Alike .nothing .nothing
  | displacement {value value' : Int} (hvalue : value % 2 ^ 64 = value' % 2 ^ 64) :
    Alike (.displacement value) (.displacement value')
  | index (id : Int) : Alike (.index id 1) (.index id 1)
  | scaledIndex (id : Int) {scale scale' : Int} (hscale : scale ≠ 1) (hscale' : scale' ≠ 1)
      (hsame : scale % 2 ^ 64 = scale' % 2 ^ 64) :
    Alike (.index id scale) (.index id scale')

/-- An index does not begin like a numeral. -/
theorem any_head?_indexText (id scale : Int) :
    (indexText id scale).toList.head?.any beginsNumeral = false := by
  unfold indexText
  split
  · exact (Register.isPlainName_emission id).2
  · simp only [String.toList_append, List.append_assoc]
    rfl

/-- Only an index with a factor shows a star. -/
theorem star_mem_indexText {id scale : Int} :
    '*' ∈ (indexText id scale).toList ↔ scale ≠ 1 := by
  unfold indexText
  split
  · rename_i hone
    refine ⟨fun hstar => ?_, fun hscale => absurd hone hscale⟩
    exact absurd hstar (Register.notMem_emission rfl)
  · rename_i hscale
    have hstar : '*' ∈ " * ".toList := by decide
    simp only [String.toList_append, List.mem_append]
    exact ⟨fun _ => hscale, fun _ => .inl (.inl (.inr hstar))⟩

theorem alike_of_indexText {id id' scale scale' : Int} (hid : Register.IsId id)
    (hid' : Register.IsId id') (h : indexText id scale = indexText id' scale') :
    Alike (.index id scale) (.index id' scale') := by
  -- The star shows whether there is a factor, so either both have one or neither has.
  have hsame : scale ≠ 1 ↔ scale' ≠ 1 := by rw [← star_mem_indexText, h, star_mem_indexText]
  by_cases hscale : scale = 1
  · obtain rfl : scale' = 1 := by
      by_contra hscale'
      exact hsame.mpr hscale' hscale
    subst hscale
    rw [indexText, indexText, if_pos rfl, if_pos rfl, Register.text_emission_inj hid hid'] at h
    subst h
    exact .index id
  · -- Between the parentheses the index ends at the star.
    have hscale' := hsame.mp hscale
    simp only [indexText, if_neg hscale, if_neg hscale', String.append_assoc,
      String.append_right_inj] at h
    obtain ⟨hindex, hfactor⟩ := separated_inj
      (show " * ".toList = [' '] ++ '*' :: [' '] from rfl) (by decide)
      (Register.notMem_emission rfl) (Register.notMem_emission rfl) h
    rw [Register.text_emission_inj hid hid'] at hindex
    rw [String.append_left_inj, Numeral.unsigned_inj] at hfactor
    subst hindex
    exact .scaledIndex id hscale hscale' hfactor

/-- What is shown behind the plus tells what is added. -/
theorem shown_inj {first second : Addend} (hfirst : first.IsListed) (hsecond : second.IsListed) :
    first.shown = second.shown ↔ first.Alike second := by
  -- A displacement begins like a numeral and an index does not, so the mixed cases are out.
  have hapart : ∀ value id scale,
      String.join (Numeral.signedPieces value) ≠ indexText id scale := by
    intro value id scale h
    have hhead := any_head?_indexText id scale
    rw [← h, Numeral.join_signedPieces, Numeral.any_head?_decimal] at hhead
    cases hhead
  constructor
  · intro h
    cases first with
    | nothing =>
      cases second with
      | nothing => exact .nothing
      | displacement | index => cases h
    | displacement value =>
      cases second with
      | nothing => cases h
      | displacement value' =>
        exact .displacement (Numeral.join_signedPieces_inj.mp (Option.some.inj h))
      | index id scale => exact absurd (Option.some.inj h) (hapart _ _ _)
    | index id scale =>
      cases second with
      | nothing => cases h
      | displacement value => exact absurd (Option.some.inj h).symm (hapart _ _ _)
      | index id' scale' => exact alike_of_indexText hfirst hsecond (Option.some.inj h)
  · intro h
    cases h with
    | nothing => rfl
    | displacement hvalue => exact congrArg some (Numeral.join_signedPieces_inj.mpr hvalue)
    | index id => rfl
    | scaledIndex id hscale hscale' hsame =>
      simp only [shown, indexText, if_neg hscale, if_neg hscale', Numeral.unsigned_inj.mpr hsame]

end Addend

/-! ### Places in memory -/

namespace Memory

/-- What the memory adds to its base. -/
def addend (memory : Memory) : Addend :=
  match memory.displacement with
  | some displacement => .displacement displacement
  | none => if memory.ShowsIndex then .index memory.index memory.scale else .nothing

/-- The two are opened alike, and have the same segment and base and the like added to it. -/
structure Alike (first second : Memory) : Prop where
  opening : first.kind = .address ↔ second.kind = .address
  segment : first.segment = second.segment
  base : first.base = second.base
  addend : first.addend.Alike second.addend

variable {memory : Memory}

theorem isListed_addend (h : ∀ id ∈ memory.consulted, Register.IsId id) :
    memory.addend.IsListed := by
  unfold addend
  split
  · trivial
  · split
    · rename_i hshown
      exact h memory.index (by simp [consulted, if_pos hshown])
    · trivial

theorem text_offset (h : ∀ id ∈ memory.consulted, Register.IsId id) :
    memory.offset.text = memory.addend.shown.elim "" (" + " ++ ·) := by
  -- A displacement takes the place of the index, so the index is looked at only without one.
  rcases hdisplacement : memory.displacement with - | displacement
  · by_cases hshown : memory.ShowsIndex
    · have hindex : Register.IsId memory.index := h _ (by simp [consulted, if_pos hshown])
      simp only [addend, hdisplacement, if_pos hshown, offset_of_showsIndex hshown,
        text_piece_append, text_scaledIndex hindex]
      rfl
    · have hempty := offset_of_not_showsIndex hshown hdisplacement
      simp only [addend, hdisplacement, if_neg hshown, hempty]
      rfl
  · simp only [addend, hdisplacement, text_offset_of_some hdisplacement]
    rfl

/-- Behind the colon, base and addend are told apart at the plus. -/
theorem base_addend_inj {first second : Addend} {base base' : Int} (hbase : Register.IsId base)
    (hbase' : Register.IsId base')
    (h : (Register.emission base).text ++ first.shown.elim "" (" + " ++ ·)
      = (Register.emission base').text ++ second.shown.elim "" (" + " ++ ·)) :
    base = base' ∧ first.shown = second.shown := by
  -- No register shows a plus, so a text with an addend is none without.
  have hapart : ∀ (id id' : Int) (shown : String),
      (Register.emission id).text ≠ (Register.emission id').text ++ (" + " ++ shown) := by
    intro id id' shown heq
    have hplus : '+' ∉ (Register.emission id).text.toList := Register.notMem_emission rfl
    apply hplus
    rw [heq]
    simp [String.toList_append]
  rcases hfirst : first.shown with - | shown <;> rcases hsecond : second.shown with - | shown' <;>
    simp only [hfirst, hsecond, Option.elim_none, Option.elim_some, String.append_empty] at h
  · exact ⟨(Register.text_emission_inj hbase hbase').mp h, rfl⟩
  · exact absurd h (hapart _ _ _)
  · exact absurd h.symm (hapart _ _ _)
  · obtain ⟨hbases, hshown⟩ := separated_inj
      (show " + ".toList = [' '] ++ '+' :: [' '] from rfl) (by decide)
      (Register.notMem_emission rfl) (Register.notMem_emission rfl) h
    exact ⟨(Register.text_emission_inj hbase hbase').mp hbases, congrArg some hshown⟩

/-- What stands before a place in memory tells whether it is dereferenced. -/
theorem opening_inj {kind kind' : MemoryKind} {rest rest' : String}
    (h : kind.opening ++ rest = kind'.opening ++ rest') :
    (kind = .address ↔ kind' = .address) ∧ rest = rest' := by
  have hhead := congrArg (fun text => text.toList.head?) h
  unfold MemoryKind.opening at h hhead
  -- The openings differ in their first characters, so the mixed cases are out.
  by_cases hkind : kind = .address <;> by_cases hkind' : kind' = .address <;>
    simp only [hkind, hkind', if_true, if_false, String.toList_append, String.append_right_inj]
      at h hhead
  · exact ⟨⟨fun _ => hkind', fun _ => hkind⟩, h⟩
  · cases hhead
  · cases hhead
  · exact ⟨⟨fun hmem => absurd hmem hkind, fun hmem => absurd hmem hkind'⟩, h⟩

/-- A place in memory begins with a parenthesis or a star, and shows a colon. -/
theorem looks_of_fault_eq_none (h : memory.emission.fault = none) :
    memory.emission.text.toList.head?.any beginsNumeral = false
    ∧ ':' ∈ memory.emission.text.toList := by
  obtain ⟨hknown, hlisted⟩ := fault_emission_eq_none_iff.mp h
  rw [text_emission hknown hlisted]
  constructor
  · unfold MemoryKind.opening
    split <;> simp only [String.toList_append, List.append_assoc] <;> rfl
  · simp [String.toList_append]

/-- A place in memory can be read back as far as its text shows it. -/
theorem text_emission_inj {first second : Memory} (hfirst : first.emission.fault = none)
    (hsecond : second.emission.fault = none) :
    first.emission.text = second.emission.text ↔ first.Alike second := by
  obtain ⟨hknown, hlisted⟩ := fault_emission_eq_none_iff.mp hfirst
  obtain ⟨hknown', hlisted'⟩ := fault_emission_eq_none_iff.mp hsecond
  have hsegment : ∀ {memory : Memory}, (∀ id ∈ memory.consulted, Register.IsId id) →
      Register.IsId memory.segment := fun h => h _ List.mem_cons_self
  have hbase : ∀ {memory : Memory}, (∀ id ∈ memory.consulted, Register.IsId id) →
      Register.IsId memory.base := fun h => h _ (List.mem_cons_of_mem _ List.mem_cons_self)
  have haddend := Addend.shown_inj (isListed_addend hlisted) (isListed_addend hlisted')
  rw [text_emission hknown hlisted, text_emission hknown' hlisted', text_offset hlisted,
    text_offset hlisted', String.append_left_inj]
  constructor
  · intro h
    simp only [String.append_assoc] at h
    obtain ⟨hopening, hrest⟩ := opening_inj h
    -- The segment ends at the first colon, and the base at the first plus behind it.
    obtain ⟨hsegments, hbases⟩ := separated_inj (show ": ".toList = [] ++ ':' :: [' '] from rfl)
      (by decide) (Register.notMem_emission rfl) (Register.notMem_emission rfl) hrest
    obtain ⟨hbase, hshown⟩ := base_addend_inj (hbase hlisted) (hbase hlisted') hbases
    rw [Register.text_emission_inj (hsegment hlisted) (hsegment hlisted')] at hsegments
    exact ⟨hopening, hsegments, hbase, haddend.mp hshown⟩
  · rintro ⟨hopening, hsegments, hbases, halike⟩
    rw [hsegments, hbases, haddend.mpr halike, MemoryKind.opening, MemoryKind.opening]
    simp only [hopening]

end Memory

/-! ### Constants -/

namespace Immediate

/-- The number that is printed of a constant that is not relative: its word, read with a sign or
without. -/
def reading (immediate : Immediate) : Int :=
  if immediate.isSigned then Numeral.signedWord immediate.value
  else Numeral.word immediate.value

/-- Both are relative and lead to the same address, or neither is and they print the same number. -/
inductive Alike (first second : Immediate) : Prop
  | relative (hfirst : first.isRelative = true) (hsecond : second.isRelative = true)
      (hvalue : first.value % 2 ^ 64 = second.value % 2 ^ 64)
  | constant (hfirst : first.isRelative = false) (hsecond : second.isRelative = false)
      (hreading : first.reading = second.reading)

variable {immediate : Immediate} {address : Int}

theorem text_of_relative (h : immediate.isRelative = true) :
    (immediate.emission address).text = Numeral.hex (address + immediate.value) := by
  rw [emission, if_pos h, text_piece]

theorem text_of_constant (h : immediate.isRelative = false) :
    (immediate.emission address).text = Numeral.decimal immediate.reading := by
  rw [emission, if_neg (by rw [h]; decide), reading]
  split
  · rw [text_ofPieces, Numeral.join_signedPieces]
  · rw [text_piece, Numeral.unsigned_eq_decimal_word]

/-- A constant begins like a numeral, the hex ones included. -/
theorem any_head?_emission (immediate : Immediate) (address : Int) :
    (immediate.emission address).text.toList.head?.any beginsNumeral = true := by
  cases hrelative : immediate.isRelative with
  | true =>
    rw [text_of_relative hrelative, Numeral.hex, String.toList_append]
    rfl
  | false =>
    rw [text_of_constant hrelative]
    exact Numeral.any_head?_decimal _

/-- A constant can be read back as far as its text shows it. -/
theorem text_emission_inj {first second : Immediate} {address : Int} :
    (first.emission address).text = (second.emission address).text ↔ first.Alike second := by
  -- Only hex numerals have an x.
  have hapart : ∀ value reading, Numeral.hex value ≠ Numeral.decimal reading := by
    intro value reading h
    have hmem : 'x' ∈ (Numeral.decimal reading).toList := by
      rw [← h, Numeral.hex, String.toList_append]
      exact List.mem_append_left _ (by decide)
    cases Numeral.beginsNumeral_of_mem_decimal hmem
  have hcongruent : ∀ value value' : Int, (address + value) % 2 ^ 64 = (address + value') % 2 ^ 64
      ↔ value % 2 ^ 64 = value' % 2 ^ 64 := by
    intro value value'
    omega
  constructor
  · intro h
    cases hfirst : first.isRelative <;> cases hsecond : second.isRelative
    · rw [text_of_constant hfirst, text_of_constant hsecond] at h
      exact .constant hfirst hsecond (Numeral.decimal_injective h)
    · rw [text_of_constant hfirst, text_of_relative hsecond] at h
      exact absurd h.symm (hapart _ _)
    · rw [text_of_relative hfirst, text_of_constant hsecond] at h
      exact absurd h (hapart _ _)
    · rw [text_of_relative hfirst, text_of_relative hsecond, Numeral.hex_inj, hcongruent] at h
      exact .relative hfirst hsecond h
  · rintro (⟨hfirst, hsecond, hvalue⟩ | ⟨hfirst, hsecond, hreading⟩)
    · rw [text_of_relative hfirst, text_of_relative hsecond, Numeral.hex_inj, hcongruent]
      exact hvalue
    · rw [text_of_constant hfirst, text_of_constant hsecond, hreading]

end Immediate

/-! ### Operands -/

/-- The kind of operand that a text looks like. -/
def OperandKind.ofText (text : String) : OperandKind :=
  if text.toList.head?.any beginsNumeral then .immediate
  else if ':' ∈ text.toList then .memory
  else .register

namespace Operand

/-- The two differ in nothing that the text of an operand shows. -/
inductive Alike (first second : Operand) : Prop
  | register (hfirst : first.kind = .register) (hsecond : second.kind = .register)
      (hid : first.register = second.register)
  | memory {memory memory' : Memory} (hfirst : first.kind = .memory)
      (hsecond : second.kind = .memory) (hmemory : first.memory = some memory)
      (hmemory' : second.memory = some memory') (halike : memory.Alike memory')
  | immediate {immediate immediate' : Immediate} (hfirst : first.kind = .immediate)
      (hsecond : second.kind = .immediate) (himmediate : first.immediate = some immediate)
      (himmediate' : second.immediate = some immediate') (halike : immediate.Alike immediate')

variable {operand : Operand} {address : Int}

/-- What an operand without a fault is written as. -/
inductive Reads (operand : Operand) (address : Int) (text : String) : Prop
  | register (hkind : operand.kind = .register) (hid : Register.IsId operand.register)
      (htext : text = (Register.emission operand.register).text)
  | memory {memory : Memory} (hkind : operand.kind = .memory) (hsome : operand.memory = some memory)
      (hfault : memory.emission.fault = none) (htext : text = memory.emission.text)
  | immediate {immediate : Immediate} (hkind : operand.kind = .immediate)
      (hsome : operand.immediate = some immediate)
      (htext : text = (immediate.emission address).text)

theorem reads_of_fault_eq_none (h : (operand.emission address).fault = none) :
    operand.Reads address (operand.emission address).text := by
  obtain ⟨kind, register, memory, immediate, pointer⟩ := operand
  cases kind with
  | register => exact .register rfl (Register.fault_emission_eq_none_iff.mp h) rfl
  | memory =>
    rcases memory with - | memory
    · cases h
    · exact .memory rfl rfl h rfl
  | immediate =>
    rcases immediate with - | immediate
    · cases h
    · exact .immediate rfl rfl rfl
  | pointer => cases h

theorem Reads.kind_eq {text : String} (h : operand.Reads address text) :
    operand.kind = .ofText text := by
  unfold OperandKind.ofText
  cases h with
  | register hkind hid htext =>
    have hhead := (Register.isPlainName_emission operand.register).2
    have hcolon : ':' ∉ (Register.emission operand.register).text.toList :=
      Register.notMem_emission rfl
    rw [hkind, htext, hhead, if_neg Bool.false_ne_true, if_neg hcolon]
  | @memory memory hkind hsome hfault htext =>
    obtain ⟨hhead, hcolon⟩ := Memory.looks_of_fault_eq_none hfault
    rw [hkind, htext, hhead, if_neg Bool.false_ne_true, if_pos hcolon]
  | @immediate immediate hkind hsome htext =>
    rw [hkind, htext, if_pos (immediate.any_head?_emission address)]

/-- Operands without a fault have one text exactly if they are alike. -/
theorem text_emission_inj {first second : Operand} (hfirst : (first.emission address).fault = none)
    (hsecond : (second.emission address).fault = none) :
    (first.emission address).text = (second.emission address).text ↔ first.Alike second := by
  constructor
  · intro h
    have hreads := reads_of_fault_eq_none hfirst
    have hreads' := reads_of_fault_eq_none hsecond
    -- A text shows its kind, so what is left is to compare two operands of one kind.
    have hkinds : first.kind = second.kind := by rw [hreads.kind_eq, hreads'.kind_eq, h]
    cases hreads with
    | register hkind hid htext =>
      cases hreads' with
      | register hkind' hid' htext' =>
        rw [htext, htext', Register.text_emission_inj hid hid'] at h
        exact .register hkind hkind' h
      | memory hkind' | immediate hkind' => cases hkind.symm.trans (hkinds.trans hkind')
    | memory hkind hsome hfault htext =>
      cases hreads' with
      | memory hkind' hsome' hfault' htext' =>
        rw [htext, htext', Memory.text_emission_inj hfault hfault'] at h
        exact .memory hkind hkind' hsome hsome' h
      | register hkind' | immediate hkind' => cases hkind.symm.trans (hkinds.trans hkind')
    | immediate hkind hsome htext =>
      cases hreads' with
      | immediate hkind' hsome' htext' =>
        rw [htext, htext', Immediate.text_emission_inj] at h
        exact .immediate hkind hkind' hsome hsome' h
      | register hkind' | memory hkind' => cases hkind.symm.trans (hkinds.trans hkind')
  · intro h
    cases h with
    | register hkind hkind' hid => simp only [emission, hkind, hkind', hid]
    | memory hkind hkind' hsome hsome' halike =>
      simp only [emission, hkind, hkind', hsome, hsome', Option.elim_some] at hfirst hsecond ⊢
      exact (Memory.text_emission_inj hfirst hsecond).mpr halike
    | immediate hkind hkind' hsome hsome' halike =>
      simp only [emission, hkind, hkind', hsome, hsome', Option.elim_some]
      exact Immediate.text_emission_inj.mpr halike

/-- **Operands can be read back.**  Two operands that render at one address do so to one text
exactly if they differ in nothing that the text of an operand shows: two registers are the same;
two constants are the same number, or lead to the same address; two places in memory are both
dereferenced or both not, have the same segment and base, and the same displacement or the same
index with the same factor, as 64-bit words. -/
theorem renders_same_iff_alike {first second : Operand} {text text' : String}
    (h : first.Renders address text) (h' : second.Renders address text') :
    text = text' ↔ first.Alike second := by
  obtain ⟨hfault, rfl⟩ := renders_iff.mp h
  obtain ⟨hfault', rfl⟩ := renders_iff.mp h'
  exact text_emission_inj hfault hfault'

/-- A displacement below zero and the word that it wraps to; the index is shown of neither. -/
theorem renders_same_iff_alike_wrapped :
    Renders (.ofMemory ⟨.direct, 0, 53, 54, 4, some (-8)⟩) 7 "*(: (i64)a + -8)"
    ∧ Renders (.ofMemory ⟨.indirectBase, 0, 53, 0, 1, some (2 ^ 64 - 8)⟩) 7 "*(: (i64)a + -8)"
    ∧ Alike (.ofMemory ⟨.direct, 0, 53, 54, 4, some (-8)⟩)
      (.ofMemory ⟨.indirectBase, 0, 53, 0, 1, some (2 ^ 64 - 8)⟩) := by
  have hfirst : Renders (.ofMemory ⟨.direct, 0, 53, 54, 4, some (-8)⟩) 7 "*(: (i64)a + -8)" :=
    renders_iff.mpr ⟨by decide +kernel, by decide +kernel⟩
  have hsecond : Renders (.ofMemory ⟨.indirectBase, 0, 53, 0, 1, some (2 ^ 64 - 8)⟩) 7
      "*(: (i64)a + -8)" :=
    renders_iff.mpr ⟨by decide +kernel, by decide +kernel⟩
  exact ⟨hfirst, hsecond, (renders_same_iff_alike hfirst hsecond).mp rfl⟩

end Operand

end X86Gloss
