/-
X86Gloss/Proofs/Operand/Lexis.lean

What the texts of operands look like. The words of the templates are told apart from operands by
the marks, which no operand holds whatever its kind, its registers and its numbers are. Nor does an
operand begin like a branch or like the name of a function. Both are
`Site.isUnmarked_isApart_operand`. So an operand is an `IsOperandText` unless its text is empty.
-/
import X86Gloss.Proofs.Operand.Alphabet

namespace X86Gloss

/-! ### Marks -/

/-- The text holds no mark. -/
def IsUnmarked (text : String) : Prop := ∀ c ∈ text.toList, isMark c = false

instance (text : String) : Decidable (IsUnmarked text) :=
  @decidableOfEncoding (fun chars => ∀ c ∈ chars, isMark c = false)
    (fun chars => List.decidableBAll _ chars) text

theorem isUnmarked_append {first second : String} :
    IsUnmarked (first ++ second) ↔ IsUnmarked first ∧ IsUnmarked second := by
  simp only [IsUnmarked, String.toList_append, List.mem_append, or_imp, forall_and]

theorem IsWord.isUnmarked {text : String} (h : IsWord text) : IsUnmarked text :=
  fun c hc => (h c hc).2

/-! ### Beginnings -/

/-- How branches and the names of functions begin. -/
def wordHeads : List String := ["if", "v", "_"]

/-- The text begins like none of these. -/
def IsApart (text : String) : Prop := ∀ head ∈ wordHeads, ¬ head.toList <+: text.toList

instance (text : String) : Decidable (IsApart text) :=
  decidableOfEncoding (fun chars => ∀ head ∈ wordHeads, ¬ head.toList <+: chars) text

/-- A text with another first character begins like none of these. -/
theorem isApart_of_toList_eq_cons {text : String} {c : Char} {rest : List Char}
    (h : text.toList = c :: rest) (hc : c ∉ ['i', 'v', '_']) : IsApart text := by
  intro head hhead hprefix
  rw [h] at hprefix
  simp only [List.mem_cons, List.not_mem_nil, or_false, not_or] at hc
  simp only [wordHeads, List.mem_cons, List.not_mem_nil, or_false] at hhead
  rcases hhead with rfl | rfl | rfl
  · exact hc.1 (List.cons_prefix_cons.mp hprefix).1.symm
  · exact hc.2.1 (List.cons_prefix_cons.mp hprefix).1.symm
  · exact hc.2.2 (List.cons_prefix_cons.mp hprefix).1.symm

theorem isApart_empty : IsApart "" := by
  decide

/-- Text after a beginning that is not empty does not matter. -/
theorem isApart_append (first second : String) {c : Char} {rest : List Char}
    (h : first.toList = c :: rest) (hc : c ∉ ['i', 'v', '_']) : IsApart (first ++ second) :=
  isApart_of_toList_eq_cons (by rw [String.toList_append, h, List.cons_append]) hc

/-- What the text of an operand looks like when it is not empty. -/
structure IsOperandText (text : String) : Prop where
  nonempty : text ≠ ""
  unmarked : IsUnmarked text
  apart : IsApart text

/-! ### How operands begin -/

namespace Numeral

/-- No digit begins a word. -/
theorem isApart_unsigned (value : Int) : IsApart (unsigned value) := by
  rcases htext : (unsigned value).toList with - | ⟨c, rest⟩
  · have hempty : unsigned value = "" := by rw [← String.toList_inj, htext]; rfl
    rw [hempty]
    exact isApart_empty
  · have hplain : ∀ n ≤ 16, n.digitChar ∉ ['i', 'v', '_'] := by decide
    have hall := forall_mem_unsigned (p := fun c => c ∉ ['i', 'v', '_']) hplain value
    rw [htext] at hall
    exact isApart_of_toList_eq_cons htext (hall c List.mem_cons_self)

theorem isApart_signedPieces (value : Int) : IsApart (String.join (signedPieces value)) := by
  unfold signedPieces
  split
  · simpa using isApart_append "-" _ rfl (by decide)
  · simpa using isApart_unsigned _

end Numeral

open Emission

namespace Register

theorem isApart_text {register : Register} (h : register ∈ table) : IsApart register.text := by
  have hall : ∀ register ∈ table, IsApart register.text := by decide +kernel
  exact hall register h

theorem isApart_emission (id : Int) : IsApart (emission id).text := by
  unfold emission
  rcases h : ofId? id with - | register
  · exact isApart_empty
  · simpa using isApart_text (mem_table_of_ofId? h)

end Register

namespace Memory

variable (memory : Memory)

theorem isApart_enclosed {opening : String} {c : Char} {rest : List Char}
    (h : opening.toList = c :: rest) (hc : c ∉ ['i', 'v', '_']) :
    IsApart (memory.enclosed opening).text := by
  simp only [enclosed, append_assoc]
  rw [text_append (fault_piece _), text_piece]
  exact isApart_append opening _ h hc

theorem isApart_emission : IsApart memory.emission.text := by
  unfold emission
  split
  · exact memory.isApart_enclosed rfl (by decide)
  · exact memory.isApart_enclosed rfl (by decide)
  · exact memory.isApart_enclosed rfl (by decide)
  · exact isApart_empty

end Memory

theorem Immediate.isApart_emission (address : Int) (immediate : Immediate) :
    IsApart (immediate.emission address).text := by
  unfold emission
  split
  · rw [text_piece]
    exact isApart_append "0x" _ rfl (by decide)
  · split
    · exact Numeral.isApart_signedPieces _
    · simpa using Numeral.isApart_unsigned _

theorem Operand.isApart_emission (address : Int) (operand : Operand) :
    IsApart (operand.emission address).text := by
  obtain ⟨kind, register, memory, immediate, pointer⟩ := operand
  cases kind with
  | register => exact Register.isApart_emission register
  | memory =>
    rcases memory with - | memory
    · exact isApart_empty
    · exact memory.isApart_emission
  | immediate =>
    rcases immediate with - | immediate
    · exact isApart_empty
    · exact immediate.isApart_emission address
  | pointer => exact isApart_empty

/-- The text of an operand that the instruction has or lacks holds no mark, and begins like no
word. -/
theorem Site.isUnmarked_isApart_operand (site : Site) (index : Nat) :
    IsUnmarked (site.operand index).text ∧ IsApart (site.operand index).text := by
  refine ⟨(site.isWord_operand index).isUnmarked, ?_⟩
  unfold operand
  split
  · exact Operand.isApart_emission _ _
  · exact isApart_empty

end X86Gloss
