/-
X86Gloss/Proofs/Operand/Length.lean

The text of an operand is short, whatever the operand is: register texts are short, numbers are
words and have few digits, and a memory operand has a fixed number of both.
-/
import X86Gloss.Proofs.Statement.Ascii

namespace X86Gloss

open Emission

/-! ### Parts -/

namespace Emission

variable {ε : Type} {first second : Emission ε}

theorem length_text_append_le (first second : Emission ε) :
    (first ++ second).text.length ≤ first.text.length + second.text.length := by
  rcases hfault : first.fault with - | fault
  · exact Nat.le_of_eq (by rw [text_append hfault, String.length_append])
  · rw [text_append_of_fault hfault]
    exact Nat.le_add_right _ _

end Emission

/-- The longest register text has 21 characters. -/
theorem Register.length_emission_le (id : Int) : (emission id).text.length ≤ 21 := by
  have hall : table.all (fun register => register.text.toByteArray.data.toList.length ≤ 21)
      = true := by
    decide +kernel
  unfold emission
  rcases h : ofId? id with - | register
  · exact Nat.zero_le _
  · have hmem := mem_table_of_ofId? h
    have hlength := of_decide_eq_true (List.all_eq_true.mp hall register hmem)
    rw [text_piece, ← String.length_toList, toList_eq_map_encoding (isAscii_text hmem),
      List.length_map]
    exact hlength

namespace Numeral

/-- A word has at most 20 decimal digits. -/
theorem length_unsigned_le (value : Int) : (unsigned value).length ≤ 20 := by
  have hword : word value < 10 ^ 20 := by
    simp only [word, wordCount]
    omega
  rw [unsigned, ← String.length_toList, Nat.toList_repr,
    Nat.length_toDigits_le_iff (by decide) (by decide)]
  exact hword

theorem length_signedPieces_le (value : Int) : (String.join (signedPieces value)).length ≤ 21 := by
  unfold signedPieces
  split
  · have hlength := length_unsigned_le (-signedWord value)
    simp only [String.join_cons, String.join_nil, String.append_empty, String.length_append]
    exact Nat.add_le_add_left hlength 1
  · have hlength := length_unsigned_le (signedWord value)
    simp only [String.join_cons, String.join_nil, String.append_empty]
    exact Nat.le_succ_of_le hlength

/-- A word has at most 16 hex digits. -/
theorem length_hex_le (value : Int) : (hex value).length ≤ 18 := by
  have hword : word value < 16 ^ 16 := by
    simp only [word, wordCount]
    omega
  have hdigits : (Nat.toDigits 16 (word value)).length ≤ 16 :=
    (Nat.length_toDigits_le_iff (by decide) (by decide)).mpr hword
  simp only [hex, String.length_append, String.length_ofList, List.length_map]
  exact Nat.add_le_add_left hdigits 2

end Numeral

/-! ### Operands -/

namespace Memory

variable (memory : Memory)

theorem length_scaledIndex_le : memory.scaledIndex.text.length ≤ 46 := by
  have hregister := Register.length_emission_le memory.index
  have hscale := Numeral.length_unsigned_le memory.scale
  unfold scaledIndex
  split
  · omega
  · have hfactor : (ofPieces [" * ", Numeral.unsigned memory.scale, ")"] :
        Emission OperandFault).text.length = 3 + ((Numeral.unsigned memory.scale).length + 1) := by
      simp only [text_ofPieces, String.join_cons, String.join_nil, String.append_empty,
        String.length_append]
      rfl
    have hindex := length_text_append_le (Register.emission memory.index)
      (ofPieces [" * ", Numeral.unsigned memory.scale, ")"])
    rw [append_assoc, text_piece_append, String.length_append]
    have hopening : "(".length = 1 := rfl
    omega

theorem length_offset_le : memory.offset.text.length ≤ 49 := by
  have hplus : " + ".length = 3 := rfl
  unfold offset
  split
  · rename_i displacement _
    have hnumeral := Numeral.length_signedPieces_le displacement
    rw [text_ofPieces, String.join_cons, String.length_append]
    omega
  · split
    · have hindex := memory.length_scaledIndex_le
      rw [text_piece_append, String.length_append]
      omega
    · exact Nat.zero_le _

theorem length_enclosed_le {opening : String} (h : opening.length ≤ 2) :
    (memory.enclosed opening).text.length ≤ 96 := by
  have hsegment := Register.length_emission_le memory.segment
  have hbase := Register.length_emission_le memory.base
  have hoffset := memory.length_offset_le
  have hcolon : ": ".length = 2 := rfl
  have hclosing : ")".length = 1 := rfl
  simp only [enclosed, append_assoc, text_piece_append, String.length_append]
  -- Each of the parts can have a fault, so the lengths are bounded from the front, part by part.
  have hwhole := length_text_append_le (Register.emission memory.segment)
    (piece ": " ++ (Register.emission memory.base ++ (memory.offset ++ piece ")")))
  have hrest := length_text_append_le (Register.emission memory.base) (memory.offset ++ piece ")")
  have hend := length_text_append_le memory.offset (piece ")")
  rw [text_piece_append, String.length_append] at hwhole
  rw [text_piece] at hend
  omega

theorem length_emission_le : memory.emission.text.length ≤ 96 := by
  unfold emission
  split
  · exact memory.length_enclosed_le (by decide)
  · exact memory.length_enclosed_le (by decide)
  · exact memory.length_enclosed_le (by decide)
  · exact Nat.zero_le _

end Memory

theorem Immediate.length_emission_le (address : Int) (immediate : Immediate) :
    (immediate.emission address).text.length ≤ 21 := by
  unfold emission
  split
  · rw [text_piece]
    exact Nat.le_trans (Numeral.length_hex_le _) (by decide)
  · split
    · exact Numeral.length_signedPieces_le _
    · rw [text_piece]
      exact Nat.le_succ_of_le (Numeral.length_unsigned_le _)

/-- No operand takes more than 96 characters. -/
theorem Operand.length_emission_le (address : Int) (operand : Operand) :
    (operand.emission address).text.length ≤ 96 := by
  obtain ⟨kind, register, memory, immediate, pointer⟩ := operand
  cases kind with
  | register => exact Nat.le_trans (Register.length_emission_le register) (by decide)
  | memory =>
    rcases memory with - | memory
    · exact Nat.zero_le _
    · exact memory.length_emission_le
  | immediate =>
    rcases immediate with - | immediate
    · exact Nat.zero_le _
    · exact Nat.le_trans (immediate.length_emission_le address) (by decide)
  | pointer => exact Nat.zero_le _

end X86Gloss
