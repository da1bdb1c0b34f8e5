/-
X86Gloss/Proofs/Operand/Phrase.lean

Parentheses in what is written. They are opened by one piece and closed by another, and some only
under conditions, so a text is followed from one depth to another: `Nests outer inner text` says
that the text, begun with `outer` parentheses open, ends with `inner` open and never closes one that
is not. Texts that meet at a depth nest together (`Nests.append`), and a text that closes all that
it opens may stand at any depth (`Nests.atDepth`). A phrase is such a text of plain characters,
which are all that a line has before its semicolon and its note.

The operands follow by their parts: one that has a text is a phrase that ends as deep as it begins
(`Site.isPhrase_operand`).
-/
import Mathlib.Data.List.Infix
import X86Gloss.Proofs.Operand.Alphabet

namespace X86Gloss

/-! ### Parentheses -/

/-- Begun `outer` deep, the text ends `inner` deep, and no beginning of it closes more parentheses
than are open. -/
def Nests (outer inner : Nat) (text : String) : Prop :=
  outer + text.toList.count '(' = inner + text.toList.count ')'
  ∧ ∀ front ∈ text.toList.inits, front.count ')' ≤ outer + front.count '('

instance (outer inner : Nat) (text : String) : Decidable (Nests outer inner text) :=
  decidableOfEncoding (fun chars => outer + chars.count '(' = inner + chars.count ')'
    ∧ ∀ front ∈ chars.inits, front.count ')' ≤ outer + front.count '(') text

namespace Nests

variable {outer middle inner : Nat} {first second text : String}

theorem append (hfirst : Nests outer middle first) (hsecond : Nests middle inner second) :
    Nests outer inner (first ++ second) := by
  obtain ⟨hends, hfronts⟩ := hfirst
  obtain ⟨hends', hfronts'⟩ := hsecond
  refine ⟨?_, ?_⟩
  · simp only [String.toList_append, List.count_append]
    omega
  · intro front hfront
    rw [List.mem_inits, String.toList_append] at hfront
    rcases List.prefix_or_prefix_of_prefix hfront (List.prefix_append _ _) with hle | ⟨more, rfl⟩
    · exact hfronts front ((List.mem_inits _ _).mpr hle)
    · have hmore := hfronts' more ((List.mem_inits _ _).mpr
        ((List.prefix_append_right_inj _).mp hfront))
      simp only [List.count_append]
      omega

/-- What closes all that it opens can stand at any depth. -/
theorem atDepth (h : Nests 0 0 text) (depth : Nat) : Nests depth depth text := by
  obtain ⟨hends, hfronts⟩ := h
  refine ⟨by omega, ?_⟩
  intro front hfront
  have hclosed := hfronts front hfront
  omega

end Nests

/-- A text without parentheses ends as deep as it begins. -/
theorem nests_of_forall {text : String} (h : ∀ c ∈ text.toList, c ∉ ['(', ')']) (depth : Nat) :
    Nests depth depth text := by
  have hopening : '(' ∉ text.toList := fun hc => h _ hc (by decide)
  have hclosing : ')' ∉ text.toList := fun hc => h _ hc (by decide)
  refine ⟨by rw [List.count_eq_zero.mpr hopening, List.count_eq_zero.mpr hclosing], ?_⟩
  intro front hfront
  have hclosed : ')' ∉ front := fun hc => hclosing (((List.mem_inits _ _).mp hfront).subset hc)
  rw [List.count_eq_zero.mpr hclosed]
  omega

/-! ### Phrases -/

/-- Visible, and neither the semicolon that ends a statement nor the slash that begins a note. -/
def isPlain (c : Char) : Bool := isVisible c && !([';', '/'].contains c)

/-- A text of plain characters whose parentheses lead from one depth to another. -/
def IsPhrase (outer inner : Nat) (text : String) : Prop :=
  (∀ c ∈ text.toList, isPlain c = true) ∧ Nests outer inner text

instance (outer inner : Nat) (text : String) : Decidable (IsPhrase outer inner text) :=
  have : Decidable (∀ c ∈ text.toList, isPlain c = true) :=
    @decidableOfEncoding (fun chars => ∀ c ∈ chars, isPlain c = true)
      (fun chars => List.decidableBAll _ chars) text
  inferInstanceAs (Decidable (_ ∧ _))

namespace IsPhrase

variable {outer middle inner : Nat} {first second text : String}

/-- A phrase goes on where the one before it ends. -/
theorem append (hfirst : IsPhrase outer middle first) (hsecond : IsPhrase middle inner second) :
    IsPhrase outer inner (first ++ second) := by
  refine ⟨?_, hfirst.2.append hsecond.2⟩
  rw [String.toList_append]
  exact List.forall_mem_append.mpr ⟨hfirst.1, hsecond.1⟩

/-- A phrase that closes what it opens can stand at any depth. -/
theorem atDepth (h : IsPhrase 0 0 text) (depth : Nat) : IsPhrase depth depth text :=
  ⟨h.1, h.2.atDepth depth⟩

/-- A phrase between an opening and its closing. -/
theorem enclosed {opening closing : String} (hopening : IsPhrase 0 1 opening)
    (h : IsPhrase 0 0 text) (hclosing : IsPhrase 1 0 closing) :
    IsPhrase 0 0 (opening ++ text ++ closing) :=
  (hopening.append (h.atDepth 1)).append hclosing

end IsPhrase

/-- What ends a statement or begins a note is a mark. -/
theorem IsWord.isPhrase {text : String} {outer inner : Nat} (h : IsWord text)
    (hnests : Nests outer inner text) : IsPhrase outer inner text := by
  refine ⟨?_, hnests⟩
  intro c hc
  obtain ⟨hvisible, hmark⟩ := h c hc
  have hend : c ≠ ';' := by
    rintro rfl
    cases hmark
  have hslash : c ≠ '/' := by
    rintro rfl
    cases hmark
  simp [isPlain, hvisible, hend, hslash]

theorem isPhrase_empty (depth : Nat) : IsPhrase depth depth "" :=
  IsPhrase.atDepth (by decide) depth

/-- A list of phrases with commas between them is a phrase. -/
theorem isPhrase_intercalate {texts : List String} (h : ∀ text ∈ texts, IsPhrase 0 0 text) :
    IsPhrase 0 0 (", ".intercalate texts) := by
  induction texts with
  | nil => exact isPhrase_empty 0
  | cons text rest ih =>
    rw [List.forall_mem_cons] at h
    rcases rest with - | ⟨next, rest⟩
    · simpa using h.1
    · rw [String.intercalate_cons_cons]
      exact (h.1.append (by decide)).append (ih h.2)

/-! ### Numerals -/

namespace Numeral

/-- There are no parentheses among the digits. -/
theorem nests_unsigned (value : Int) (depth : Nat) : Nests depth depth (unsigned value) :=
  nests_of_forall (forall_mem_unsigned (by decide) value) depth

theorem nests_hex (value : Int) (depth : Nat) : Nests depth depth (hex value) :=
  nests_of_forall (forall_mem_hex (by decide) (by decide) (by decide) value) depth

theorem nests_signedPieces (value : Int) (depth : Nat) :
    Nests depth depth (String.join (signedPieces value)) := by
  unfold signedPieces
  split
  · have hsign : Nests 0 0 "-" := by decide
    simpa using (hsign.atDepth depth).append (nests_unsigned _ depth)
  · simpa using nests_unsigned _ depth

end Numeral

/-! ### Emissions -/

namespace Emission

variable {ε : Type} {outer middle inner : Nat}

/-- Unless a fault cuts it off, the emission leads from one depth to another. -/
def Leads (outer inner : Nat) (emission : Emission ε) : Prop :=
  emission.fault = none → Nests outer inner emission.text

theorem leads_empty (depth : Nat) : (empty : Emission ε).Leads depth depth :=
  fun _ => (isPhrase_empty depth).2

theorem leads_fail (fault : ε) : (fail fault).Leads outer inner := nofun

theorem leads_piece {text : String} (h : Nests outer inner text) :
    (piece text : Emission ε).Leads outer inner := by
  intro _
  rwa [text_piece]

theorem leads_ofPieces {pieces : List String} (h : Nests outer inner (String.join pieces)) :
    (ofPieces pieces : Emission ε).Leads outer inner :=
  fun _ => h

theorem Leads.append {first second : Emission ε} (hfirst : first.Leads outer middle)
    (hsecond : second.Leads middle inner) : (first ++ second).Leads outer inner := by
  intro hfault
  rw [fault_append, Option.or_eq_none_iff] at hfault
  rw [text_append hfault.1]
  exact (hfirst hfault.1).append (hsecond hfault.2)

end Emission

open Emission

/-! ### Operands -/

-- Some registers are casts of a shifted register, with parentheses of their own.
theorem Register.nests_text {register : Register} (h : register ∈ table) :
    Nests 0 0 register.text := by
  have hall : table.all (fun register => decide (Nests 0 0 register.text)) = true := by
    decide +kernel
  exact of_decide_eq_true (List.all_eq_true.mp hall register h)

theorem Register.leads_emission (id : Int) (depth : Nat) : (emission id).Leads depth depth := by
  unfold emission
  rcases h : ofId? id with - | register
  · exact leads_fail _
  · exact leads_piece ((nests_text (mem_table_of_ofId? h)).atDepth depth)

namespace Memory

variable (memory : Memory)

/-- The index has parentheses of its own when it has a factor. -/
theorem leads_scaledIndex : memory.scaledIndex.Leads 1 1 := by
  unfold scaledIndex
  split
  · exact Register.leads_emission _ 1
  · have hopening : Nests 1 2 "(" := by decide
    have hfactor : Nests 2 1 (String.join [" * ", Numeral.unsigned memory.scale, ")"]) := by
      have htimes : Nests 2 2 " * " := by decide
      have hclosing : Nests 2 1 ")" := by decide
      simpa using htimes.append ((Numeral.nests_unsigned memory.scale 2).append hclosing)
    exact ((leads_piece hopening).append (Register.leads_emission _ 2)).append
      (leads_ofPieces hfactor)

theorem leads_offset : memory.offset.Leads 1 1 := by
  unfold offset
  rcases memory.displacement with - | displacement
  · simp only
    split
    · exact (leads_piece (by decide)).append memory.leads_scaledIndex
    · exact leads_empty 1
  · have hplus : Nests 1 1 " + " := by decide
    refine leads_ofPieces ?_
    rw [String.join_cons]
    exact hplus.append (Numeral.nests_signedPieces displacement 1)

/-- The parenthesis that closes a memory operand is the one that its opening opened. -/
theorem leads_enclosed {opening : String} (h : Nests 0 1 opening) :
    (memory.enclosed opening).Leads 0 0 :=
  (((((leads_piece h).append (Register.leads_emission _ 1)).append (leads_piece (by decide))).append
    (Register.leads_emission _ 1)).append memory.leads_offset).append (leads_piece (by decide))

theorem leads_emission : memory.emission.Leads 0 0 := by
  unfold emission
  split
  · exact memory.leads_enclosed (by decide)
  · exact memory.leads_enclosed (by decide)
  · exact memory.leads_enclosed (by decide)
  · exact leads_fail _

end Memory

theorem Immediate.leads_emission (address : Int) (immediate : Immediate) :
    (immediate.emission address).Leads 0 0 := by
  unfold emission
  split
  · exact leads_piece (Numeral.nests_hex _ 0)
  · split
    · exact leads_ofPieces (Numeral.nests_signedPieces _ 0)
    · exact leads_piece (Numeral.nests_unsigned _ 0)

/-- An operand that has a text closes what it opens. -/
theorem Operand.leads_emission (address : Int) (operand : Operand) :
    (operand.emission address).Leads 0 0 := by
  obtain ⟨kind, register, memory, immediate, pointer⟩ := operand
  cases kind with
  | register => exact Register.leads_emission register 0
  | memory =>
    rcases memory with - | memory
    · exact leads_fail _
    · exact memory.leads_emission
  | immediate =>
    rcases immediate with - | immediate
    · exact leads_fail _
    · exact immediate.leads_emission address
  | pointer => exact leads_fail _

theorem Site.isPhrase_operand (site : Site) {index : Nat} (h : (site.operand index).fault = none) :
    IsPhrase 0 0 (site.operand index).text := by
  refine (site.isWord_operand index).isPhrase ?_
  unfold operand at h ⊢
  split at h
  · exact Operand.leads_emission _ _ h
  · cases h

end X86Gloss
