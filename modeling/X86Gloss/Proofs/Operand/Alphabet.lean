/-
X86Gloss/Proofs/Operand/Alphabet.lean

The characters of operands. An operand is made of register texts, of numerals and of a few signs
between them. None of these holds a character that is not printable ASCII, nor one of the marks by
which the templates are told apart from operands: their texts are words (`Site.isWord_operand`).

Registers are looked up in the table, all else follows the parts of an operand. That operands are
ASCII, hold no mark and hold nothing that ends a statement or begins a note are consequences.
-/
import X86Gloss.Proofs.Text.Ascii
import X86Gloss.Statement

namespace X86Gloss

/-! ### Words -/

/-- Printable ASCII, the blank included. -/
def isVisible (c : Char) : Bool := 0x20 ≤ c.toNat && c.toNat ≤ 0x7e

/-- The characters of the templates that no operand holds. -/
def isMark (c : Char) : Bool := [',', ';', '/', '=', '&', '|', '!'].contains c

/-- All characters of the text are visible, and none is a mark. -/
def IsWord (text : String) : Prop := ∀ c ∈ text.toList, isVisible c = true ∧ isMark c = false

instance (text : String) : Decidable (IsWord text) :=
  @decidableOfEncoding (fun chars => ∀ c ∈ chars, isVisible c = true ∧ isMark c = false)
    (fun chars => List.decidableBAll _ chars) text

theorem isWord_empty : IsWord "" := nofun

theorem isWord_append {first second : String} :
    IsWord (first ++ second) ↔ IsWord first ∧ IsWord second := by
  rw [IsWord, String.toList_append, List.forall_mem_append]
  rfl

theorem isWord_join {pieces : List String} :
    IsWord (String.join pieces) ↔ ∀ piece ∈ pieces, IsWord piece := by
  induction pieces with
  | nil => simp [isWord_empty]
  | cons piece pieces ih => simp [isWord_append, ih]

theorem IsWord.isAscii {text : String} (h : IsWord text) : IsAscii text := by
  intro c hc
  have hvisible := (h c hc).1
  rw [isVisible, Bool.and_eq_true, decide_eq_true_eq, decide_eq_true_eq] at hvisible
  omega

/-! ### Numerals -/

namespace Numeral

/-- What holds of the digits of hex and of the star, which stands for any other, holds of all. -/
theorem forall_digitChar {p : Char → Prop} (h : ∀ n ≤ 16, p n.digitChar) (n : Nat) :
    p n.digitChar := by
  rcases Nat.le_total n 16 with hle | hge
  · exact h n hle
  · rw [Nat.digitChar_eq_star.mpr hge]
    exact h 16 (Nat.le_refl 16)

theorem forall_mem_unsigned {p : Char → Prop} (h : ∀ n ≤ 16, p n.digitChar) (value : Int) :
    ∀ c ∈ (unsigned value).toList, p c := by
  intro c hc
  rw [unsigned, Nat.toList_repr] at hc
  obtain ⟨digit, rfl⟩ := mem_toDigits (by decide) hc
  exact forall_digitChar h digit

theorem forall_mem_hex {p : Char → Prop} (hzero : p '0') (hx : p 'x')
    (h : ∀ n ≤ 16, p n.digitChar.toUpper) (value : Int) : ∀ c ∈ (hex value).toList, p c := by
  have hhead : "0x".toList = ['0', 'x'] := rfl
  rw [hex, String.toList_append, hhead, String.toList_ofList]
  simp only [List.forall_mem_append, List.forall_mem_cons, List.forall_mem_map]
  refine ⟨⟨hzero, hx, nofun⟩, ?_⟩
  intro digit hdigit
  obtain ⟨n, rfl⟩ := mem_toDigits (by decide) hdigit
  exact forall_digitChar (p := fun c => p c.toUpper) h n

theorem isWord_unsigned (value : Int) : IsWord (unsigned value) :=
  forall_mem_unsigned (by decide) value

theorem isWord_hex (value : Int) : IsWord (hex value) :=
  forall_mem_hex (by decide) (by decide) (by decide) value

theorem isWord_signedPieces (value : Int) : IsWord (String.join (signedPieces value)) := by
  unfold signedPieces
  split
  · simpa using isWord_append.mpr ⟨by decide, isWord_unsigned _⟩
  · simpa using isWord_unsigned _

end Numeral

/-! ### Operands -/

open Emission

theorem Emission.isWord_text_append {ε : Type} {first second : Emission ε}
    (hfirst : IsWord first.text) (hsecond : IsWord second.text) :
    IsWord (first ++ second).text := by
  rcases hfault : first.fault with - | fault
  · rw [text_append hfault]
    exact isWord_append.mpr ⟨hfirst, hsecond⟩
  · rw [text_append_of_fault hfault]
    exact hfirst

namespace Register

theorem mem_table_of_ofId? {id : Int} {register : Register} (h : ofId? id = some register) :
    register ∈ table := by
  unfold ofId? at h
  split at h
  · exact List.mem_of_getElem? h
  · cases h

theorem isWord_text {register : Register} (h : register ∈ table) : IsWord register.text := by
  have hall : table.all (fun register => decide (IsWord register.text)) = true := by
    decide +kernel
  exact of_decide_eq_true (List.all_eq_true.mp hall register h)

theorem isWord_emission (id : Int) : IsWord (emission id).text := by
  unfold emission
  rcases h : ofId? id with - | register
  · exact isWord_empty
  · simpa using isWord_text (mem_table_of_ofId? h)

end Register

namespace Memory

variable (memory : Memory)

theorem isWord_scaledIndex : IsWord memory.scaledIndex.text := by
  unfold scaledIndex
  split
  · exact Register.isWord_emission _
  · refine isWord_text_append (isWord_text_append (by decide) (Register.isWord_emission _)) ?_
    simpa using isWord_append.mpr
      ⟨by decide, isWord_append.mpr ⟨Numeral.isWord_unsigned memory.scale, by decide⟩⟩

theorem isWord_offset : IsWord memory.offset.text := by
  unfold offset
  rcases memory.displacement with - | displacement
  · simp only
    split
    · exact isWord_text_append (by decide) memory.isWord_scaledIndex
    · exact isWord_empty
  · simpa using isWord_append.mpr ⟨by decide, Numeral.isWord_signedPieces displacement⟩

theorem isWord_enclosed {opening : String} (h : IsWord opening) :
    IsWord (memory.enclosed opening).text :=
  isWord_text_append (isWord_text_append (isWord_text_append (isWord_text_append
    (isWord_text_append (by simpa using h) (Register.isWord_emission _)) (by decide))
    (Register.isWord_emission _)) memory.isWord_offset) (by decide)

theorem isWord_emission : IsWord memory.emission.text := by
  unfold emission
  split
  · exact memory.isWord_enclosed (by decide)
  · exact memory.isWord_enclosed (by decide)
  · exact memory.isWord_enclosed (by decide)
  · exact isWord_empty

end Memory

theorem Immediate.isWord_emission (address : Int) (immediate : Immediate) :
    IsWord (immediate.emission address).text := by
  unfold emission
  split
  · simpa using Numeral.isWord_hex _
  · split
    · exact Numeral.isWord_signedPieces _
    · simpa using Numeral.isWord_unsigned _

/-- The text of an operand is a word, also where a fault cuts it off. -/
theorem Operand.isWord_emission (address : Int) (operand : Operand) :
    IsWord (operand.emission address).text := by
  obtain ⟨kind, register, memory, immediate, pointer⟩ := operand
  cases kind with
  | register => exact Register.isWord_emission register
  | memory =>
    rcases memory with - | memory
    · exact isWord_empty
    · exact memory.isWord_emission
  | immediate =>
    rcases immediate with - | immediate
    · exact isWord_empty
    · exact immediate.isWord_emission address
  | pointer => exact isWord_empty

/-- So is that of an operand that the instruction has or lacks. -/
theorem Site.isWord_operand (site : Site) (index : Nat) : IsWord (site.operand index).text := by
  unfold operand
  split
  · exact Operand.isWord_emission _ _
  · exact isWord_empty

end X86Gloss
