/-
X86Gloss/Proofs/Text/Distinct.lean

Tables without repetition. The texts of a table are told apart by numbers made of their bytes, which
are compared faster than the texts.
-/
import Mathlib.Data.List.Nodup

namespace X86Gloss

/-- A number made of the bytes of a text. -/
def textCode (text : String) : Nat :=
  text.toByteArray.data.toList.foldl (fun code byte => 0x100 * code + byte.toNat) 0

/-- Whether a list holds no number twice. -/
def areDistinct : List Nat → Bool
  | [] => true
  | n :: ns => ns.all (fun m => !Nat.beq n m) && areDistinct ns

theorem nodup_of_areDistinct {ns : List Nat} (h : areDistinct ns = true) : ns.Nodup := by
  induction ns with
  | nil => exact List.nodup_nil
  | cons n ns ih =>
    rw [areDistinct, Bool.and_eq_true, List.all_eq_true] at h
    refine List.nodup_cons.mpr ⟨?_, ih h.2⟩
    intro hmem
    simpa using h.1 n hmem

/-- Texts are distinct if their numbers are. -/
theorem nodup_of_textCodes {texts : List String}
    (h : areDistinct (texts.map textCode) = true) : texts.Nodup :=
  (nodup_of_areDistinct h).of_map

end X86Gloss
