/-
X86Gloss/Proofs/Text/Numeral.lean

Numerals and the integers that they stand for. A statement shows 64-bit words: an integer comes back
from its numeral modulo 2^64, be it written unsigned (`Numeral.unsigned_inj`), signed
(`Numeral.join_signedPieces_inj`) or in hex (`Numeral.hex_inj`). The signed numeral is the decimal
one of the signed reading.
-/
import Mathlib.Algebra.Group.Int.Defs
import X86Gloss.Proofs.Operand.Alphabet

namespace X86Gloss

namespace Numeral

/-! ### Words -/

/-- Adding an address undoes subtracting it, in words. -/
theorem word_add_word_sub (address value : Int) :
    word (address + (word (value - address) : Int)) = word value := by
  simp only [word, wordCount]
  omega

theorem word_eq_toNat {value : Int} (hlow : 0 ≤ value) (hhigh : value < 2 ^ 64) :
    word value = value.toNat := by
  simp only [word, wordCount]
  omega

theorem word_inj {first second : Int} :
    word first = word second ↔ first % 2 ^ 64 = second % 2 ^ 64 := by
  simp only [word, wordCount]
  omega

theorem signedWord_eq_self {value : Int} (hlow : -2 ^ 63 ≤ value) (hhigh : value < 2 ^ 63) :
    signedWord value = value := by
  apply Int.bmod_eq_of_le
  · simp only [wordCount]
    omega
  · simp only [wordCount]
    omega

theorem signedWord_bounds (value : Int) :
    -2 ^ 63 ≤ signedWord value ∧ signedWord value < 2 ^ 63 := by
  simp only [signedWord, wordCount, Int.bmod]
  omega

theorem signedWord_inj {first second : Int} :
    signedWord first = signedWord second ↔ first % 2 ^ 64 = second % 2 ^ 64 := by
  simp only [signedWord, wordCount, Int.bmod]
  omega

/-! ### Digits -/

/-- Digits determine the number that they are of. -/
theorem toDigits_injective {base first second : Nat} (hbase : 1 < base) (hsmall : base ≤ 16)
    (h : Nat.toDigits base first = Nat.toDigits base second) : first = second := by
  have hdigit : ∀ n < 16, ∀ m < 16, n.digitChar = m.digitChar → n = m := by decide
  have hmore : ∀ (n : Nat) (c d : Char), [c] ≠ Nat.toDigits base n ++ [d] := by
    intro n c d h
    have hlength := congrArg List.length h
    have hpositive := Nat.length_toDigits_pos (b := base) (n := n)
    simp only [List.length_append, List.length_singleton] at hlength
    omega
  -- Along the division by the base: the last digits agree, and so do those before them.
  induction first using Nat.strongRecOn generalizing second with
  | ind first ih =>
    rw [Nat.toDigits_eq_if hbase (n := first), Nat.toDigits_eq_if hbase (n := second)] at h
    by_cases hfirst : first < base <;> by_cases hsecond : second < base
    · rw [if_pos hfirst, if_pos hsecond] at h
      exact hdigit _ (by omega) _ (by omega) (List.singleton_inj.mp h)
    · rw [if_pos hfirst, if_neg hsecond] at h
      exact absurd h (hmore _ _ _)
    · rw [if_neg hfirst, if_pos hsecond] at h
      exact absurd h.symm (hmore _ _ _)
    · rw [if_neg hfirst, if_neg hsecond] at h
      obtain ⟨hfront, hlast⟩ := List.append_inj' h rfl
      have hquotient := ih (first / base) (Nat.div_lt_self (by omega) hbase) hfront
      have hremainder := hdigit _ (Nat.lt_of_lt_of_le (Nat.mod_lt _ (by omega)) hsmall) _
        (Nat.lt_of_lt_of_le (Nat.mod_lt _ (by omega)) hsmall) (List.singleton_inj.mp hlast)
      rw [← Nat.div_add_mod first base, ← Nat.div_add_mod second base, hquotient, hremainder]

/-- Only digits stand in the numeral of a word. -/
theorem isDigit_of_mem_repr {n : Nat} {c : Char} (h : c ∈ n.repr.toList) : c.isDigit = true := by
  rw [Nat.toList_repr] at h
  exact Nat.isDigit_of_mem_toDigits (by decide) (by decide) h

/-- Hex digits in upper case determine the word, too. -/
theorem hex_inj {first second : Int} :
    hex first = hex second ↔ first % 2 ^ 64 = second % 2 ^ 64 := by
  rw [← word_inj]
  constructor
  · intro h
    have hback : ∀ n : Nat, ((Nat.toDigits 16 n).map Char.toUpper).map Char.toLower
        = Nat.toDigits 16 n := by
      intro n
      rw [List.map_map]
      refine (List.map_congr_left fun c hc => ?_).trans (List.map_id _)
      obtain ⟨digit, rfl⟩ := mem_toDigits (by decide) hc
      exact forall_digitChar (p := fun c => c.toUpper.toLower = c) (by decide) digit
    have hupper : (Nat.toDigits 16 (word first)).map Char.toUpper
        = (Nat.toDigits 16 (word second)).map Char.toUpper :=
      String.ofList_inj.mp ((String.append_right_inj "0x").mp h)
    apply toDigits_injective (by decide : 1 < 16) (by decide)
    rw [← hback, hupper, hback]
  · intro h
    rw [hex, hex, h]

/-! ### Decimal numerals -/

/-- The text denotes the integer: it is made of decimal digits, behind a minus sign if the
integer is negative. -/
def Denotes (text : String) (value : Int) : Prop :=
  ∃ digits : List Char, digits ≠ [] ∧ (∀ c ∈ digits, c.isDigit = true)
    ∧ Nat.ofDigitChars 10 digits 0 = value.natAbs
    ∧ text = (if value < 0 then "-" else "") ++ String.ofList digits

theorem denotes_decimal (value : Int) : Denotes (decimal value) value := by
  refine ⟨Nat.toDigits 10 value.natAbs, Nat.toDigits_ne_nil, ?_, ?_, ?_⟩
  · intro c hc
    exact Nat.isDigit_of_mem_toDigits (by decide) (by decide) hc
  · exact Nat.ofDigitChars_toDigits (by decide) (by decide)
  · rw [decimal, sign, ← Nat.toList_repr, String.ofList_toList]

theorem unsigned_eq_decimal_word (value : Int) : unsigned value = decimal (word value) := by
  rw [unsigned, decimal, sign, if_neg (by omega), String.empty_append, Int.natAbs_natCast]

theorem unsigned_eq_decimal {value : Int} (hlow : 0 ≤ value) (hhigh : value < 2 ^ 64) :
    unsigned value = decimal value := by
  rw [unsigned_eq_decimal_word, word_eq_toNat hlow hhigh, Int.toNat_of_nonneg hlow]

/-- The pieces of a signed numeral make up the decimal numeral of the signed reading. -/
theorem join_signedPieces (value : Int) :
    String.join (signedPieces value) = decimal (signedWord value) := by
  obtain ⟨hlow, hhigh⟩ := signedWord_bounds value
  unfold signedPieces
  split
  · rename_i hneg
    have habs : decimal (signedWord value) = "-" ++ decimal (-signedWord value) := by
      simp only [decimal, sign, if_pos hneg, Int.natAbs_neg]
      rw [if_neg (by omega), String.empty_append]
    rw [String.join_cons, String.join_cons, String.join_nil, String.append_empty,
      unsigned_eq_decimal (by omega) (by omega), habs]
  · rw [String.join_cons, String.join_nil, String.append_empty,
      unsigned_eq_decimal (by omega) (by omega)]

theorem join_signedPieces_eq_decimal {value : Int} (hlow : -2 ^ 63 ≤ value)
    (hhigh : value < 2 ^ 63) : String.join (signedPieces value) = decimal value := by
  rw [join_signedPieces, signedWord_eq_self hlow hhigh]

/-- A text denotes one integer at most: its sign is told from its digits. -/
theorem Denotes.unique {text : String} {first second : Int} (h : Denotes text first)
    (h' : Denotes text second) : first = second := by
  obtain ⟨digits, -, hdigits, hvalue, rfl⟩ := h
  obtain ⟨digits', -, hdigits', hvalue', htext⟩ := h'
  have hminus : ∀ row : List Char, (∀ c ∈ row, c.isDigit = true) → '-' ∉ row :=
    fun row hrow hmem => absurd (hrow _ hmem) (by decide)
  have hlists := congrArg String.toList htext
  simp only [String.toList_append, String.toList_ofList] at hlists
  by_cases hfirst : first < 0 <;> by_cases hsecond : second < 0
  · rw [if_pos hfirst, if_pos hsecond] at hlists
    rw [List.append_cancel_left hlists, hvalue'] at hvalue
    omega
  · -- A minus sign on one side only would be a digit of the other.
    rw [if_pos hfirst, if_neg hsecond] at hlists
    have hmem : '-' ∈ "".toList ++ digits' := hlists ▸ List.mem_cons_self
    exact absurd hmem (hminus _ hdigits')
  · rw [if_neg hfirst, if_pos hsecond] at hlists
    have hmem : '-' ∈ "".toList ++ digits := hlists ▸ List.mem_cons_self
    exact absurd hmem (hminus _ hdigits)
  · rw [if_neg hfirst, if_neg hsecond] at hlists
    rw [List.append_cancel_left hlists, hvalue'] at hvalue
    omega

/-- Decimal numerals determine the integer. -/
theorem decimal_injective {first second : Int} (h : decimal first = decimal second) :
    first = second :=
  (denotes_decimal first).unique (h ▸ denotes_decimal second)

theorem unsigned_inj {first second : Int} :
    unsigned first = unsigned second ↔ first % 2 ^ 64 = second % 2 ^ 64 := by
  rw [← word_inj, unsigned_eq_decimal_word, unsigned_eq_decimal_word]
  constructor
  · intro h
    exact Int.ofNat.inj (decimal_injective h)
  · intro h
    rw [h]

theorem join_signedPieces_inj {first second : Int} :
    String.join (signedPieces first) = String.join (signedPieces second)
      ↔ first % 2 ^ 64 = second % 2 ^ 64 := by
  rw [← signedWord_inj, join_signedPieces, join_signedPieces]
  exact ⟨decimal_injective, congrArg decimal⟩

end Numeral

end X86Gloss
