/-
X86Gloss/Proofs/Text/Canonical.lean

Canonical numerals: digits of a base, the one of the greatest weight first, and no zero before other
digits. A number has one canonical numeral in each base (`Numeral.isCanonical_iff`), which is why
two integers share a text only if they are equal as 64-bit words.

`Numeral.canonical_numerals` says which numbers the texts of an integer are canonical numerals of:
its residue modulo 2^64, or for the signed text the residue that lies around zero. The least of
these has no positive counterpart among them, but its digits are those of an unsigned word.
-/
import Mathlib.Data.Nat.Digits.Lemmas
import X86Gloss.Proofs.Text.Numeral

namespace X86Gloss.Numeral

/-! ### Canonical rows of digits -/

/-- The digits of all bases up to sixteen, each at the place of its value. -/
def alphabet : List Char :=
  ['0', '1', '2', '3', '4', '5', '6', '7', '8', '9', 'A', 'B', 'C', 'D', 'E', 'F']

/-- The text is the numeral of a number without superfluous digits. -/
structure IsCanonical (base n : Nat) (text : String) : Prop where
  /-- Digits of the base, highest first, that denote the number. -/
  denotes : ∃ digits : List Nat, (∀ digit ∈ digits, digit < base)
    ∧ Nat.ofDigits base digits.reverse = n
    ∧ List.Forall₂ (fun c digit => alphabet[digit]? = some c) text.toList digits
  nonempty : text ≠ ""
  noLeadingZero : text.toList.head? = some '0' → text = "0"

/-- The digit with a value. -/
def digit (value : Nat) : Char := value.digitChar.toUpper

theorem getElem?_alphabet {value : Nat} (h : value < 16) :
    alphabet[value]? = some (digit value) := by
  revert value
  decide

theorem digit_eq_zero_iff {value : Nat} (h : value < 16) : digit value = '0' ↔ value = 0 := by
  revert value
  decide

/-- The values of the digits of a number, highest first. -/
def digitsOf (base n : Nat) : List Nat := if n = 0 then [0] else (Nat.digits base n).reverse

theorem toDigits_eq_map_digitsOf {base : Nat} (hbase : 1 < base) (n : Nat) :
    Nat.toDigits base n = (digitsOf base n).map Nat.digitChar := by
  -- Both split off the last digit, as long as there is another one.
  induction n using Nat.strongRecOn with
  | ind n ih =>
    rw [Nat.toDigits_eq_if hbase]
    by_cases hzero : n = 0
    · subst hzero
      rw [if_pos (by omega)]
      rfl
    · rw [digitsOf, if_neg hzero, Nat.digits_def' hbase (by omega), List.reverse_cons]
      split
      · rename_i hlt
        rw [Nat.div_eq_of_lt hlt, Nat.mod_eq_of_lt hlt, Nat.digits_zero]
        rfl
      · rename_i hge
        have hquotient : n / base ≠ 0 := by
          rw [Nat.div_ne_zero_iff]
          omega
        rw [ih (n / base) (Nat.div_lt_self (by omega) hbase), digitsOf, if_neg hquotient,
          List.map_append, List.map_singleton]

/-- The values of the digits are determined by what they denote. -/
theorem eq_digitsOf_iff {base n : Nat} (hbase : 1 < base) {digits : List Nat} :
    digits = digitsOf base n
      ↔ (∀ digit ∈ digits, digit < base) ∧ Nat.ofDigits base digits.reverse = n
        ∧ digits ≠ [] ∧ (digits.head? = some 0 → digits = [0]) := by
  constructor
  · rintro rfl
    unfold digitsOf
    split
    · rename_i hzero
      subst hzero
      refine ⟨?_, rfl, List.cons_ne_nil _ _, fun _ => rfl⟩
      intro digit hdigit
      rw [List.mem_singleton.mp hdigit]
      omega
    · rename_i hzero
      have hne : Nat.digits base n ≠ [] := Nat.digits_ne_nil_iff_ne_zero.mpr hzero
      refine ⟨?_, ?_, List.reverse_ne_nil_iff.mpr hne, ?_⟩
      · intro digit hdigit
        exact Nat.digits_lt_base hbase (List.mem_reverse.mp hdigit)
      · rw [List.reverse_reverse, Nat.ofDigits_digits]
      · intro hhead
        rw [List.head?_reverse, List.getLast?_eq_some_getLast hne, Option.some.injEq] at hhead
        exact absurd hhead (Nat.getLast_digit_ne_zero base hzero)
  · rintro ⟨hlt, rfl, hne, hhead⟩
    unfold digitsOf
    split
    · rename_i hzero
      -- All digits are zero, so there is one.
      apply hhead
      rw [List.head?_eq_some_head hne, Option.some.injEq]
      apply Nat.digits_zero_of_eq_zero (by omega) hzero
      exact List.mem_reverse.mpr (List.head_mem hne)
    · rename_i hzero
      rw [Nat.digits_ofDigits base hbase, List.reverse_reverse]
      · intro digit hdigit
        exact hlt digit (List.mem_reverse.mp hdigit)
      · intro hrow hlast
        rw [List.getLast_reverse] at hlast
        have hdigits := hhead (by rw [List.head?_eq_some_head hne, hlast])
        rw [hdigits] at hzero
        exact hzero rfl

/-- Digits of a base are read off a text in one way. -/
theorem forall₂_alphabet_iff {row : List Char} {digits : List Nat}
    (h : ∀ value ∈ digits, value < 16) :
    List.Forall₂ (fun c value => alphabet[value]? = some c) row digits
      ↔ row = digits.map digit := by
  induction digits generalizing row with
  | nil => rw [List.forall₂_nil_right_iff, List.map_nil]
  | cons value digits ih =>
    obtain ⟨hvalue, hdigits⟩ := List.forall_mem_cons.mp h
    rw [List.forall₂_cons_right_iff, List.map_cons]
    constructor
    · rintro ⟨c, rest, hc, hrest, rfl⟩
      rw [getElem?_alphabet hvalue, Option.some.injEq] at hc
      rw [hc, (ih hdigits).mp hrest]
    · rintro rfl
      exact ⟨_, _, getElem?_alphabet hvalue, (ih hdigits).mpr rfl, rfl⟩

/-- What a leading zero is, as a character and as a value. -/
theorem leadingZero_iff {text : String} {digits : List Nat} (h : ∀ value ∈ digits, value < 16)
    (htext : text.toList = digits.map digit) :
    (text.toList.head? = some '0' → text = "0") ↔ (digits.head? = some 0 → digits = [0]) := by
  have hzero : text = "0" ↔ digits = [0] := by
    rw [← String.toList_inj, htext]
    change digits.map digit = ['0'] ↔ _
    rcases digits with - | ⟨value, digits⟩
    · simp
    · rw [List.map_cons, List.cons.injEq, List.cons.injEq, List.map_eq_nil_iff,
        digit_eq_zero_iff (h value List.mem_cons_self)]
  have hhead : text.toList.head? = some '0' ↔ digits.head? = some 0 := by
    rw [htext]
    rcases digits with - | ⟨value, digits⟩
    · simp
    · rw [List.map_cons, List.head?_cons, List.head?_cons, Option.some.injEq, Option.some.injEq,
        digit_eq_zero_iff (h value List.mem_cons_self)]
  rw [hzero, hhead]

/-- A number has one canonical numeral in each base. -/
theorem isCanonical_iff {base n : Nat} (hbase : 1 < base) (hsmall : base ≤ 16) {text : String} :
    IsCanonical base n text
      ↔ text = String.ofList ((Nat.toDigits base n).map Char.toUpper) := by
  have hrow : (Nat.toDigits base n).map Char.toUpper = (digitsOf base n).map digit := by
    rw [toDigits_eq_map_digitsOf hbase, List.map_map]
    rfl
  rw [hrow, ← String.toList_inj, String.toList_ofList]
  constructor
  · rintro ⟨⟨digits, hlt, hvalue, htext⟩, hnonempty, hzero⟩
    have hlt' : ∀ value ∈ digits, value < 16 :=
      fun value hmem => Nat.lt_of_lt_of_le (hlt value hmem) hsmall
    rw [forall₂_alphabet_iff hlt'] at htext
    have hdigits : digits = digitsOf base n := by
      rw [eq_digitsOf_iff hbase]
      refine ⟨hlt, hvalue, ?_, ?_⟩
      · rintro rfl
        exact hnonempty (String.toList_inj.mp htext)
      · exact (leadingZero_iff hlt' htext).mp hzero
    rw [htext, hdigits]
  · intro htext
    obtain ⟨hlt, hvalue, hne, hhead⟩ := (eq_digitsOf_iff hbase).mp (rfl : digitsOf base n = _)
    have hlt' : ∀ value ∈ digitsOf base n, value < 16 :=
      fun value hmem => Nat.lt_of_lt_of_le (hlt value hmem) hsmall
    refine ⟨⟨_, hlt, hvalue, (forall₂_alphabet_iff hlt').mpr htext⟩, ?_, ?_⟩
    · rintro rfl
      exact hne (List.map_eq_nil_iff.mp htext.symm)
    · exact (leadingZero_iff hlt' htext).mpr hhead

theorem isCanonical_repr {n : Nat} {text : String} : IsCanonical 10 n text ↔ text = n.repr := by
  have hsame : ∀ value < 10, Char.toUpper (Nat.digitChar value) = Nat.digitChar value := by decide
  have hdigits : (Nat.toDigits 10 n).map Char.toUpper = Nat.toDigits 10 n := by
    obtain ⟨hlt, -⟩ := (eq_digitsOf_iff (by decide)).mp (rfl : digitsOf 10 n = _)
    rw [toDigits_eq_map_digitsOf (by decide), List.map_map]
    exact List.map_congr_left fun value hvalue => hsame value (hlt value hvalue)
  rw [isCanonical_iff (by decide) (by decide), hdigits, ← Nat.toList_repr, String.ofList_toList]

/-! ### Signs and markers -/

/-- The text is a canonical decimal numeral, behind a minus sign if the number is negative. -/
def IsCanonicalSigned (value : Int) (text : String) : Prop :=
  ∃ digits, IsCanonical 10 value.natAbs digits ∧ text = (if value < 0 then "-" else "") ++ digits

/-- The text is a canonical hex numeral behind its marker. -/
def IsCanonicalHex (n : Nat) (text : String) : Prop :=
  ∃ digits, IsCanonical 16 n digits ∧ text = "0x" ++ digits

theorem isCanonicalSigned_iff {value : Int} {text : String} :
    IsCanonicalSigned value text ↔ text = decimal value := by
  simp only [IsCanonicalSigned, isCanonical_repr, exists_eq_left]
  rfl

theorem isCanonicalHex_iff {n : Nat} {text : String} :
    IsCanonicalHex n text
      ↔ text = "0x" ++ String.ofList ((Nat.toDigits 16 n).map Char.toUpper) := by
  simp only [IsCanonicalHex, isCanonical_iff (by decide : 1 < 16) (by decide), exists_eq_left]

/-- Zero has no sign. -/
theorem decimal_ne_minus_zero (value : Int) : decimal value ≠ "-0" := by
  intro h
  obtain ⟨digits, -, hdigits, hvalue, htext⟩ := denotes_decimal value
  have hrow := congrArg String.toList (h.symm.trans htext)
  simp only [String.toList_append, String.toList_ofList] at hrow
  by_cases hneg : value < 0
  · rw [if_pos hneg] at hrow
    -- The digit behind the sign denotes zero, which is not negative.
    have hsigned : ['-'] ++ ['0'] = ['-'] ++ digits := hrow
    rw [← List.append_cancel_left hsigned] at hvalue
    have hvalue' : 0 = value.natAbs := hvalue
    omega
  · rw [if_neg hneg] at hrow
    have hminus : '-' ∈ "".toList ++ digits := hrow ▸ List.mem_cons_self
    exact absurd (hdigits _ hminus) (by decide)

/-! ### The texts of an integer -/

/-- The signed 64-bit integer that an integer is congruent to. -/
def IsSignedReading (value reading : Int) : Prop :=
  reading % 2 ^ 64 = value % 2 ^ 64 ∧ -2 ^ 63 ≤ reading ∧ reading < 2 ^ 63

theorem isSignedReading_iff {value reading : Int} :
    IsSignedReading value reading ↔ reading = signedWord value := by
  constructor
  · rintro ⟨hcongr, hlow, hhigh⟩
    rw [← signedWord_eq_self hlow hhigh]
    exact signedWord_inj.mpr hcongr
  · rintro rfl
    refine ⟨?_, signedWord_bounds value⟩
    rw [← signedWord_inj]
    exact signedWord_eq_self (signedWord_bounds value).1 (signedWord_bounds value).2

theorem signed_eq_join_signedPieces (value : Int) :
    signed value = String.join (signedPieces value) := by
  unfold signed signedPieces
  split
  · rw [String.join_cons, String.join_cons, String.join_nil, String.append_empty]
  · rw [String.join_cons, String.join_nil, String.append_empty]

/-- **Texts of integers are canonical numerals of 64-bit words.**  The unsigned text and the one in
hex are numerals of the residue modulo 2^64, the signed text is one of the signed reading, and there
is no other canonical numeral of these.  Two integers have the same text exactly if they are
congruent. -/
theorem canonical_numerals (value : Int) :
    (∀ text, text = unsigned value ↔ IsCanonical 10 (value % 2 ^ 64).toNat text)
    ∧ (∃! reading, IsSignedReading value reading)
    ∧ (∀ reading, IsSignedReading value reading →
        ∀ text, text = signed value ↔ IsCanonicalSigned reading text)
    ∧ signed value ≠ "-0"
    ∧ (∀ text, text = hex value ↔ IsCanonicalHex (value % 2 ^ 64).toNat text)
    ∧ ∀ other, (unsigned value = unsigned other ↔ value % 2 ^ 64 = other % 2 ^ 64)
      ∧ (signed value = signed other ↔ value % 2 ^ 64 = other % 2 ^ 64)
      ∧ (hex value = hex other ↔ value % 2 ^ 64 = other % 2 ^ 64) := by
  have hsigned : signed value = decimal (signedWord value) := by
    rw [signed_eq_join_signedPieces, join_signedPieces]
  refine ⟨?_, ?_, ?_, ?_, ?_, ?_⟩
  · intro text
    exact isCanonical_repr.symm
  · exact ⟨_, isSignedReading_iff.mpr rfl, fun reading h => isSignedReading_iff.mp h⟩
  · intro reading hreading text
    rw [isCanonicalSigned_iff, isSignedReading_iff.mp hreading, hsigned]
  · rw [hsigned]
    exact decimal_ne_minus_zero _
  · intro text
    exact isCanonicalHex_iff.symm
  · intro other
    refine ⟨unsigned_inj, ?_, hex_inj⟩
    rw [signed_eq_join_signedPieces, signed_eq_join_signedPieces]
    exact join_signedPieces_inj

-- The least signed word, whose negation is not one.
example : signed (2 ^ 63) = "-9223372036854775808" := by decide +kernel

end X86Gloss.Numeral
