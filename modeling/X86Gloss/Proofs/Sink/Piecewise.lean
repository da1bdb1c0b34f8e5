/-
X86Gloss/Proofs/Sink/Piecewise.lean

Writing piece by piece against writing the whole text at once. Whether a writing is done, and what
the sink is then, does not depend on how its text is cut into pieces (`Writes.into_eq_done_iff`).
It does when there is not enough room, because the pieces before the one that is refused stay.

A signed number has two pieces, its sign and its digits. `Numeral.writeSigned_spec` says when it is
written, and otherwise whether the sign stays.
-/
import X86Gloss.Proofs.Sink.Acts
import X86Gloss.Proofs.Text.Canonical

namespace X86Gloss

open Writing

/-! ### Writings -/

namespace Writing.Writes

variable {ε : Type} {writing : Writing ε Unit} {emission : Emission ε} {sink last : Sink}

/-- A writing that meets no fault is done exactly if the sink takes its text at once. -/
theorem into_eq_done_iff (h : Writes writing emission) (hfault : emission.fault = none)
    (hpieces : emission.pieces ≠ []) :
    writing.into sink = (last, none) ↔ sink.append emission.text = .ok last := by
  obtain ⟨piece, pieces, hcons⟩ := List.exists_cons_of_ne_nil hpieces
  rw [h sink, Emission.text, hcons, ← Sink.write_cons_iff, ← hcons, Sink.emit, hfault]
  rcases sink.write emission.pieces with ⟨final, - | refusal⟩ <;> simp

/-- A writing stops where the first piece is refused. -/
theorem into_eq_refused (h : Writes writing emission) {refusal : Refusal}
    (hcut : sink.write emission.pieces = (last, some refusal)) :
    writing.into sink = (last, some (.refused refusal)) := by
  rw [h sink, Sink.emit, hcut]

end Writing.Writes

/-! ### Signed numbers -/

namespace Numeral

theorem isAscii_signed (value : Int) : IsAscii (signed value) := by
  rw [signed_eq_join_signedPieces]
  exact (isWord_signedPieces value).isAscii

theorem signedPieces_ne_nil (value : Int) : signedPieces value ≠ [] := by
  unfold signedPieces
  split <;> exact List.cons_ne_nil _ _

theorem signedPieces_of_nonneg {value : Int} (h : 0 ≤ signedWord value) :
    signedPieces value = [signed value] := by
  rw [signedPieces, signed, if_neg (Int.not_lt.mpr h), if_neg (Int.not_lt.mpr h)]

theorem signedPieces_of_neg {value : Int} (h : signedWord value < 0) :
    ∃ digits, signedPieces value = ["-", digits] ∧ signed value = "-" ++ digits := by
  refine ⟨unsigned (-signedWord value), ?_, ?_⟩
  · rw [signedPieces, if_pos h]
  · rw [signed, if_pos h]

/-- A signed number is written to a sink exactly if the sink takes its text at once. -/
theorem writeSigned_eq_done_iff {sink last : Sink} (value : Int) :
    (writeSigned value).into sink = (last, none) ↔ sink.append (signed value) = .ok last := by
  rw [signed_eq_join_signedPieces]
  exact (writes_writeSigned value).into_eq_done_iff rfl (signedPieces_ne_nil value)

/-- So it is written exactly if there is room for its text. -/
theorem writeSigned_done_iff (sink : Sink) (value : Int) :
    ((writeSigned value).into sink).2 = none ↔ (signed value).length ≤ sink.remaining := by
  constructor
  · intro hdone
    have hinto : (writeSigned value).into sink = (((writeSigned value).into sink).1, none) :=
      Prod.ext rfl hdone
    exact (Sink.append_eq_ok_iff.mp ((writeSigned_eq_done_iff value).mp hinto)).2.length_le
  · intro hroom
    obtain ⟨last, htaken, -⟩ := Sink.append_of_room (isAscii_signed value) hroom
    rw [(writeSigned_eq_done_iff value).mpr htaken]

variable {sink : Sink} {value : Int}

/-- Without a sign there is one piece, which is refused as a whole. -/
theorem writeSigned_cut_of_nonneg (hnonneg : 0 ≤ signedWord value)
    (hcut : sink.remaining < (signed value).length) :
    (writeSigned value).into sink
      = (sink, some (.refused (.noRoom (signed value).length sink.remaining))) := by
  apply (writes_writeSigned value).into_eq_refused
  simp only [Emission.ofPieces, signedPieces_of_nonneg hnonneg, Sink.write,
    Sink.append_of_noRoom (isAscii_signed value) hcut]

/-- With no room left the sign is refused already. -/
theorem writeSigned_cut_before_sign (hneg : signedWord value < 0) (hfull : sink.remaining = 0) :
    (writeSigned value).into sink = (sink, some (.refused (.noRoom 1 0))) := by
  obtain ⟨digits, hpieces, -⟩ := signedPieces_of_neg hneg
  have hsign : sink.append "-" = .error (.noRoom 1 0) := by
    rw [← hfull]
    exact Sink.append_of_noRoom (by decide) (by rw [hfull]; decide)
  apply (writes_writeSigned value).into_eq_refused
  simp only [Emission.ofPieces, hpieces, Sink.write, hsign]

/-- With some room left the sign is taken, and what is left then is too little for the digits. -/
theorem writeSigned_cut_behind_sign (hneg : signedWord value < 0) (hroom : 0 < sink.remaining)
    (hcut : sink.remaining < (signed value).length) :
    ∃ digits next, signed value = "-" ++ digits ∧ sink.Extends "-" next
      ∧ (writeSigned value).into sink
        = (next, some (.refused (.noRoom digits.length next.remaining))) := by
  obtain ⟨digits, hpieces, hsigned⟩ := signedPieces_of_neg hneg
  obtain ⟨next, hsign, hextends⟩ := Sink.append_of_room (by decide : IsAscii "-") hroom
  have hdigits : IsAscii digits := (isAscii_append.mp (hsigned ▸ isAscii_signed value)).2
  have hrest : next.remaining < digits.length := by
    rw [hsigned, String.length_append, ← hextends.remaining_eq] at hcut
    omega
  refine ⟨digits, next, hsigned, hextends, ?_⟩
  apply (writes_writeSigned value).into_eq_refused
  simp only [Emission.ofPieces, hpieces, Sink.write, hsign,
    Sink.append_of_noRoom hdigits hrest]

/-- **Writing a signed number agrees with its text.**  Whatever a sink holds and whatever the number
is, writing it sign first is done exactly if there is room for its text, and then the sink is what
it is after taking the text at once. Without the room a number that reads as nonnegative leaves the
sink as it is, and so does any number when no room is left at all; of a negative number the sink
keeps the sign otherwise, and it is the digits that are refused then. -/
theorem writeSigned_spec (sink : Sink) {value reading : Int} (h : IsSignedReading value reading) :
    (((writeSigned value).into sink).2 = none ↔ (signed value).length ≤ sink.remaining)
    ∧ (∀ last, (writeSigned value).into sink = (last, none)
        ↔ sink.append (signed value) = .ok last)
    ∧ (∀ last, (writeSigned value).into sink = (last, none)
        → sink.Extends (signed value) last)
    ∧ (sink.remaining < (signed value).length →
      (0 ≤ reading → (writeSigned value).into sink
        = (sink, some (.refused (.noRoom (signed value).length sink.remaining))))
      ∧ (reading < 0 → sink.remaining = 0 → (writeSigned value).into sink
        = (sink, some (.refused (.noRoom 1 0))))
      ∧ (reading < 0 → 0 < sink.remaining → ∃ digits next, signed value = "-" ++ digits
        ∧ sink.Extends "-" next
        ∧ (writeSigned value).into sink
          = (next, some (.refused (.noRoom digits.length next.remaining))))) := by
  obtain rfl := isSignedReading_iff.mp h
  refine ⟨writeSigned_done_iff sink value, fun last => writeSigned_eq_done_iff value, ?_, ?_⟩
  · intro last hdone
    exact (Sink.append_eq_ok_iff.mp ((writeSigned_eq_done_iff value).mp hdone)).2
  · intro hcut
    refine ⟨?_, ?_, ?_⟩
    · intro hnonneg
      exact writeSigned_cut_of_nonneg hnonneg hcut
    · intro hneg hfull
      exact writeSigned_cut_before_sign hneg hfull
    · intro hneg hroom
      exact writeSigned_cut_behind_sign hneg hroom hcut

/-- The least reading, whose digits would fit without the sign. -/
theorem writeSigned_least_cut :
    IsSignedReading (2 ^ 63) (-2 ^ 63)
      ∧ ∃ next, (Sink.blank 20 (by decide)).Extends "-" next
        ∧ (writeSigned (2 ^ 63)).into (Sink.blank 20 (by decide))
          = (next, some (.refused (.noRoom 19 18))) := by
  have hreading : IsSignedReading (2 ^ 63) (-2 ^ 63) := ⟨by decide, by decide, by decide⟩
  have htext : signed (2 ^ 63) = "-" ++ "9223372036854775808" := by decide +kernel
  have hcut : (Sink.blank 20 (by decide)).remaining < (signed (2 ^ 63)).length := by
    rw [htext]
    decide
  obtain ⟨digits, next, hsigned, hextends, hinto⟩ :=
    ((writeSigned_spec _ hreading).2.2.2 hcut).2.2 (by decide) (by decide)
  have hdigits : digits = "9223372036854775808" := by
    rw [htext] at hsigned
    exact ((String.append_right_inj "-").mp hsigned).symm
  have hremaining : next.remaining = 18 := by
    have h := hextends.remaining_eq
    change next.remaining + 1 = 19 at h
    omega
  refine ⟨hreading, next, hextends, ?_⟩
  rw [hinto, hdigits, hremaining]
  rfl

end Numeral

end X86Gloss
