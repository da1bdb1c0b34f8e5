/-
X86Gloss/Proofs/Text/Letters.lean

Texts that differ in the case of their letters only. On ASCII the case forms of a text go character
by character, and each of the two tells exactly which texts these are (`sameLetters_iff_upper`).
For lower case this is so as well when the text has blanks of any script, because no blank has a
case (`toList_lowerCase`).
-/
import Mathlib
import X86Gloss.Proofs.Text.Ascii
import X86Gloss.Text.Blank
import X86Gloss.Text.Case

namespace X86Gloss

/-- What is decided for all codes below U+0080 holds of the ASCII characters. -/
theorem forall_ascii {p : Char → Prop} (h : ∀ code < 0x80, p (Char.ofNat code)) {c : Char}
    (hc : c.toNat < 0x80) : p c := by
  have hcode := h c.toNat hc
  rwa [Char.ofNat_toNat] at hcode

/-! ### The same letters -/

/-- The texts are the same but for the case of ASCII letters. -/
def SameLetters (first second : String) : Prop :=
  first.toList.map Char.toLower = second.toList.map Char.toLower

instance (first second : String) : Decidable (SameLetters first second) :=
  inferInstanceAs (Decidable (_ = _))

theorem sameLetters_iff_upper {first second : String} :
    SameLetters first second ↔ first.toList.map Char.toUpper = second.toList.map Char.toUpper := by
  constructor
  · intro h
    have hupper := congrArg (List.map Char.toUpper) h
    simpa only [List.map_map, Function.comp_def, Char.toUpper_toLower_eq_toUpper] using hupper
  · intro h
    have hlower := congrArg (List.map Char.toLower) h
    unfold SameLetters
    simpa only [List.map_map, Function.comp_def, Char.toLower_toUpper_eq_toLower] using hlower

/-! ### Upper case -/

theorem upperCase_of_isAscii {text : String} (h : IsAscii text) :
    upperCase text = String.ofList (text.toList.map Char.toUpper) := by
  have hchars : ∀ chars : List Char, (∀ c ∈ chars, c.toNat < 0x80) →
      chars.flatMap upperChar = chars.map Char.toUpper := by
    intro chars hascii
    induction chars with
    | nil => rfl
    | cons c rest ih =>
      obtain ⟨hc, hrest⟩ := List.forall_mem_cons.mp hascii
      rw [List.flatMap_cons, upperChar, if_pos hc, ih hrest]
      rfl
  rw [upperCase, hchars _ h]

/-! ### Lower case -/

/-- Every character of the text that is not blank is ASCII. -/
def HasAsciiWords (text : String) : Prop := ∀ c ∈ text.toList, isBlank c = false → c.toNat < 0x80

instance (text : String) : Decidable (HasAsciiWords text) :=
  List.decidableBAll (fun c => isBlank c = false → c.toNat < 0x80) text.toList

theorem IsAscii.hasAsciiWords {text : String} (h : IsAscii text) : HasAsciiWords text :=
  fun c hc _ => h c hc

theorem toLower_of_not_ascii {c : Char} (h : ¬ c.toNat < 0x80) : c.toLower = c := by
  apply Char.toLower_eq_of_not_isUpper
  intro hupper
  simp only [Char.isUpper, decide_eq_true_eq] at hupper
  have hle : c.toNat ≤ 'Z'.toNat := hupper.2
  exact h (Nat.lt_of_le_of_lt hle (by decide))

/-- Blanks are blanks in lower case, and nothing else becomes one. -/
theorem isBlank_toLower (c : Char) : isBlank c.toLower = isBlank c := by
  by_cases hc : c.toNat < 0x80
  · exact forall_ascii (p := fun c => isBlank c.toLower = isBlank c) (by decide) hc
  · rw [toLower_of_not_ascii hc]

/-- No blank has another form in lower case. -/
theorem lowerChar_of_isBlank {c : Char} (h : isBlank c = true) : lowerChar c = [c.toLower] := by
  -- The blanks are few, so their codes are gone through one by one.
  have hcodes : ∀ range ∈ blankRanges, ∀ code ∈ List.range' range.1 (range.2 + 1 - range.1),
      lowerRuns.findSome? (CaseRun.image? · code) = none
        ∧ lowerExpansions.lookup code = none ∨ code < 0x80 := by
    decide +kernel
  unfold lowerChar
  split
  · rfl
  · rename_i hc
    simp only [isBlank, CodeRanges.covers, List.any_eq_true, Bool.and_eq_true, decide_eq_true_eq]
      at h
    obtain ⟨range, hrange, hfirst, hlast⟩ := h
    have hmem : c.toNat ∈ List.range' range.1 (range.2 + 1 - range.1) := by
      rw [List.mem_range'_1]
      omega
    obtain ⟨hruns, hexpansions⟩ := (hcodes range hrange _ hmem).resolve_right hc
    rw [caseImage, hruns, hexpansions, toLower_of_not_ascii hc]

/-- Lower case goes character by character. -/
theorem toList_lowerCase {text : String} (h : HasAsciiWords text) :
    (lowerCase text).toList = text.toList.map Char.toLower := by
  rw [lowerCase, String.toList_ofList]
  -- The one character whose form depends on its neighbours is no blank and not ASCII.
  apply lowerAfter_eq_map
  intro c hc
  by_cases hblank : isBlank c = true
  · refine ⟨?_, lowerChar_of_isBlank hblank⟩
    rintro rfl
    exact absurd hblank (by decide)
  · have hascii := h c hc (by simpa using hblank)
    refine ⟨?_, by rw [lowerChar, if_pos hascii]⟩
    rintro rfl
    exact absurd hascii (by decide)

end X86Gloss
