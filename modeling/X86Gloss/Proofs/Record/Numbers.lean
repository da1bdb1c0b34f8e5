/-
X86Gloss/Proofs/Record/Numbers.lean

The numbers of a decoded instruction as its operands show them. Decoding makes the target of a
direct branch relative to the instruction and reduces it to a word; rendering adds the address
again and reduces the sum. The two cancel for all integers (`Numeral.word_add_word_sub`). Any
other number is shown as it is as long as a 64-bit word holds it, signed or unsigned: decoding
marks exactly the negative constants as signed.

`RawInstruction.shows_numbers` states this for all operands of an instruction.
-/
import X86Gloss.Proofs.Record.Renderable
import X86Gloss.Proofs.Text.Numeral

namespace X86Gloss

/-! ### What operands are to show -/

/-- The text of the register with a name. -/
def Register.nameText (name : Option String) : String :=
  (emission (RegisterLookup.ofSpelling name).id).text

namespace RawInstruction

open Register (nameText)

variable (raw : RawInstruction)

/-- The text shows what the disassembler reports of an operand, its number in particular. -/
def Shows (text : String) : RawOperand → Prop
  | .register name => text = nameText name
  | .immediate value =>
    if (raw.isJump ∨ raw.isCall) ∧ raw.operands = [.immediate value] then
      text = "0x" ++ String.ofList ((Nat.toDigits 16 (value % 2 ^ 64).toNat).map Char.toUpper)
    else
      -2 ^ 63 ≤ value → value < 2 ^ 64 → text = Numeral.decimal value ∧ Numeral.Denotes text value
  | .memory segment base index scale displacement =>
    ∃ offset,
      text = raw.memoryKind.opening ++ nameText segment ++ ": " ++ nameText base ++ offset ++ ")"
      ∧ (displacement = 0 → offset =
        raw.memoryKind.indexText (RegisterLookup.ofSpelling index).id (nameText index) scale)
      ∧ (displacement ≠ 0 → -2 ^ 63 ≤ displacement → displacement < 2 ^ 63 →
        ∃ numeral, offset = " + " ++ numeral ∧ numeral = Numeral.decimal displacement
          ∧ Numeral.Denotes numeral displacement)
  | .unsupported _ => False

end RawInstruction

/-! ### What operands show -/

namespace Immediate

/-- The target of a direct branch. -/
theorem text_target (address value : Int) :
    (emission address ⟨(Numeral.word (value - address) : Int), false, true⟩).text
      = "0x" ++ String.ofList ((Nat.toDigits 16 (value % 2 ^ 64).toNat).map Char.toUpper) := by
  rw [emission, if_pos rfl, Emission.text_piece, Numeral.hex,
    Numeral.word_add_word_sub address value]
  rfl

/-- Any other constant. -/
theorem text_constant (address : Int) {value : Int} (hlow : -2 ^ 63 ≤ value)
    (hhigh : value < 2 ^ 64) :
    (emission address ⟨value, value < 0, false⟩).text = Numeral.decimal value := by
  rw [emission, if_neg Bool.false_ne_true]
  -- Decoding marks a constant as signed just if it is negative, so either reading takes the number
  -- as it is.
  by_cases hneg : value < 0
  · rw [if_pos (decide_eq_true hneg), Emission.text_ofPieces,
      Numeral.join_signedPieces_eq_decimal hlow (by omega)]
  · rw [if_neg (by simpa using hneg), Emission.text_piece,
      Numeral.unsigned_eq_decimal (by omega) hhigh]

end Immediate

namespace RawInstruction

variable {raw : RawInstruction}

theorem shows_memory (segment base index : Option String) (scale displacement : Int) :
    raw.Shows (raw.memory segment base index scale displacement).emission.text
      (.memory segment base index scale displacement) := by
  have hwell := raw.isWellFormed_memory segment base index scale displacement
  -- Which kind it is does not matter, and is not to be worked out.
  unfold Shows
  unfold memory at hwell ⊢
  generalize raw.memoryKind = kind at hwell ⊢
  refine ⟨_, Memory.text_emission hwell.kind hwell.isId_of_mem_consulted, ?_, ?_⟩
  · intro hzero
    exact Memory.text_offset_of_none hwell.isId_of_mem_consulted (if_pos hzero)
  · intro hne hlow hhigh
    refine ⟨Numeral.decimal displacement, ?_, rfl, Numeral.denotes_decimal displacement⟩
    rw [Memory.text_offset_of_some (if_neg hne), Numeral.join_signedPieces_eq_decimal hlow hhigh]

/-- A direct branch has a constant as its only operand. -/
theorem isDirectBranch_iff :
    raw.isDirectBranch = true
      ↔ ∃ value, (raw.isJump ∨ raw.isCall) ∧ raw.operands = [.immediate value] := by
  simp only [isDirectBranch, Bool.and_eq_true, Bool.or_eq_true, decide_eq_true_eq,
    List.length_eq_one_iff, List.all_eq_true]
  constructor
  · rintro ⟨⟨hgroup, source, hsource⟩, himmediate⟩
    cases source with
    | immediate value => exact ⟨value, hgroup, hsource⟩
    | _ => cases himmediate _ (hsource ▸ List.mem_singleton_self _)
  · rintro ⟨value, hgroup, hvalue⟩
    refine ⟨⟨hgroup, _, hvalue⟩, ?_⟩
    rw [hvalue, List.forall_mem_singleton]
    rfl

/-- The target of a direct branch is shown as a word in hex. -/
theorem shows_target {value : Int} {operand : Operand}
    (hbranch : (raw.isJump ∨ raw.isCall) ∧ raw.operands = [.immediate value])
    (h : (RawOperand.immediate value).operand? raw true = .ok operand) :
    raw.Shows (operand.emission raw.address).text (.immediate value) := by
  cases h
  simp only [Shows, if_pos hbranch]
  exact Immediate.text_target raw.address value

/-- Other operands are shown as they are reported. -/
theorem shows_operand {source : RawOperand} {operand : Operand}
    (hbranch : ∀ value, ¬ ((raw.isJump ∨ raw.isCall) ∧ raw.operands = [.immediate value]))
    (h : source.operand? raw false = .ok operand) :
    raw.Shows (operand.emission raw.address).text source := by
  cases source with
  | register name =>
    cases h
    rfl
  | immediate value =>
    cases h
    simp only [Shows, if_neg (hbranch value)]
    intro hlow hhigh
    refine ⟨Immediate.text_constant raw.address hlow hhigh, ?_⟩
    change Numeral.Denotes (Immediate.emission raw.address ⟨value, value < 0, false⟩).text value
    rw [Immediate.text_constant raw.address hlow hhigh]
    exact Numeral.denotes_decimal value
  | memory segment base index scale displacement =>
    rw [raw.operand?_memory] at h
    cases h
    rw [Memory.emission_ofMemory]
    exact shows_memory segment base index scale displacement
  | unsupported type => cases h

/-- **The numbers of an instruction survive decoding and rendering.**  An instruction whose
operands all have counterparts is decoded, and its operands, rendered at the address of the
record, show one by one what the disassembler reports. -/
theorem shows_numbers (raw : RawInstruction) (h : raw.isSupported = true) :
    ∃ record, raw.record? = .ok record ∧ record.address = raw.address
      ∧ List.Forall₂ (fun source operand =>
          ∃ text, operand.Renders record.address text ∧ raw.Shows text source)
        raw.operands record.operands := by
  obtain ⟨record, hrecord⟩ := exists_record? h
  obtain ⟨haddress, hoperands⟩ := operands_of_record? hrecord
  refine ⟨record, hrecord, haddress, ?_⟩
  rw [haddress]
  -- What a text shows is found among the emissions, which well formed operands render.
  have hrenders : ∀ {source operand relative},
      RawOperand.operand? raw relative source = .ok operand →
      raw.Shows (operand.emission raw.address).text source →
      ∃ text, operand.Renders raw.address text ∧ raw.Shows text source := by
    intro source operand relative hsource hshows
    have hwell := RawOperand.isWellFormed_of_operand? hsource
    exact ⟨_, Operand.renders_emission raw.address (hwell.fault_emission raw.address), hshows⟩
  by_cases hbranch : raw.isDirectBranch = true
  · obtain ⟨value, htarget⟩ := isDirectBranch_iff.mp hbranch
    rw [htarget.2, hbranch] at hoperands
    obtain ⟨operand, rest, hoperand, hrest, hcons⟩ := List.forall₂_cons_left_iff.mp hoperands
    rw [List.forall₂_nil_left_iff] at hrest
    rw [htarget.2, hcons, hrest]
    exact .cons (hrenders hoperand (shows_target htarget hoperand)) .nil
  · rw [Bool.not_eq_true] at hbranch
    rw [hbranch] at hoperands
    refine hoperands.imp ?_
    intro source operand hsource
    refine hrenders hsource (shows_operand ?_ hsource)
    intro value hvalue
    exact Bool.false_ne_true (hbranch.symm.trans (isDirectBranch_iff.mpr ⟨value, hvalue⟩))

/-- A call back across the origin of the addresses. -/
theorem shows_numbers_call :
    ∃ record operand text,
      record? ⟨"call", "-0x10", 5, 0x20, false, true, [.immediate (-0x10)]⟩ = .ok record
        ∧ record.operands = [operand] ∧ operand.Renders 0x20 text
        ∧ text = "0xFFFFFFFFFFFFFFF0" := by
  obtain ⟨record, hrecord, haddress, hoperands⟩ := shows_numbers
    ⟨"call", "-0x10", 5, 0x20, false, true, [.immediate (-0x10)]⟩ rfl
  obtain ⟨operand, rest, ⟨text, hrenders, hshows⟩, hrest, hcons⟩ :=
    List.forall₂_cons_left_iff.mp hoperands
  rw [List.forall₂_nil_left_iff] at hrest
  rw [haddress] at hrenders
  refine ⟨record, operand, text, hrecord, by rw [hcons, hrest], hrenders, ?_⟩
  rw [Shows, if_pos ⟨.inr rfl, rfl⟩] at hshows
  rw [hshows]
  decide +kernel

end RawInstruction

end X86Gloss
