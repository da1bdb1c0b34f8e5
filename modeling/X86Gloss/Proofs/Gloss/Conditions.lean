/-
X86Gloss/Proofs/Gloss/Conditions.lean

The conditions on a request, and what becomes of a request that breaks one. A request is proper when
it has an instruction that counts some operand, has operands, and asks for a part of a buffer that
is there (`Request.IsProper`). The checks agree with this but for one thing: of the operand count
they ask only that it is not zero. So they see a request as it is in absolute terms, with the count
of its instruction without a sign (`Request.passes_iff_isProper_absolute`), and so does all that
comes after them (`RuleTable.call_absolute`).

Hence an improper request is refused, with no row and the buffer as it was, unless its only fault is
that its count is negative. It is then told like a request that counts as many operands
(`RuleTable.call_of_not_isProper`).
-/
import X86Gloss.Proofs.Gloss.Outcome
import X86Gloss.Proofs.Gloss.Reading

namespace X86Gloss

/-! ### Proper requests -/

/-- What a caller has to see to. -/
structure Request.IsProper (request : Request) (buffer : Option (List UInt8)) : Prop where
  counted : ∃ instruction, request.instruction = some instruction ∧ 0 < instruction.operandCount
  present : ∃ operands, request.operands = some operands ∧ operands ≠ []
  /-- The capacity, by default the size of the buffer, is positive and no larger than that size. -/
  usable : ∃ bytes, buffer = some bytes ∧ 0 < request.capacity.getD bytes.length
    ∧ request.capacity.getD bytes.length ≤ bytes.length

/-- The instruction with its operand count without a sign. It shows as many operands as before. -/
def Instruction.absolute (instruction : Instruction) : Instruction :=
  { instruction with
    operandCount := instruction.operandCount.natAbs
    shownCount := some instruction.visible }

@[simp] theorem Instruction.visible_absolute (instruction : Instruction) :
    instruction.absolute.visible = instruction.visible := rfl

theorem Instruction.operandCount_absolute_pos_iff (instruction : Instruction) :
    0 < instruction.absolute.operandCount ↔ instruction.operandCount ≠ 0 := by
  simp only [absolute]
  omega

namespace Request

variable {request : Request} {buffer : Option (List UInt8)}

/-- The request in absolute terms, of which the checks tell whether it is proper. -/
def absolute (request : Request) : Request :=
  { request with instruction := request.instruction.map Instruction.absolute }

/-- The checks pass what is proper in absolute terms. -/
theorem passes_iff_isProper_absolute :
    request.Passes buffer ↔ request.absolute.IsProper buffer := by
  constructor
  · -- Not to be zero is to be positive without the sign; the other conditions are the same.
    rintro ⟨bytes, site, capacity, rfl, hvalid⟩
    have heffective := hvalid.effective
    have hpositive := hvalid.positive
    have hbounded := hvalid.bounded
    refine ⟨⟨site.instruction.absolute, ?_, ?_⟩, ⟨site.operands, hvalid.operands, hvalid.present⟩,
      ⟨bytes, rfl, ?_, ?_⟩⟩
    · rw [absolute, hvalid.instruction, Option.map_some]
    · exact site.instruction.operandCount_absolute_pos_iff.mpr hvalid.counted
    · simp only [absolute, heffective]
      omega
    · simp only [absolute, heffective]
      omega
  · rintro ⟨⟨_, habsolute, hcounted⟩, ⟨operands, hoperands, hpresent⟩,
      ⟨bytes, rfl, hpositive, hbounded⟩⟩
    obtain ⟨instruction, hinstruction, rfl⟩ := Option.map_eq_some_iff.mp habsolute
    refine ⟨bytes, ⟨instruction, operands, request.address⟩,
      (request.capacity.getD bytes.length).toNat, rfl, ?_⟩
    exact
      { instruction := hinstruction
        operands := hoperands
        address := rfl
        present := hpresent
        counted := instruction.operandCount_absolute_pos_iff.mp hcounted
        effective := (Int.toNat_of_nonneg (Int.le_of_lt hpositive)).symm
        positive := by simp only [absolute] at hpositive; omega
        bounded := by simp only [absolute] at hbounded; omega }

/-- A request that counts no operand, or fewer than none, is improper. -/
theorem not_isProper_of_operandCount_le {instruction : Instruction}
    (hinstruction : request.instruction = some instruction)
    (hcount : instruction.operandCount ≤ 0) : ¬ request.IsProper buffer := by
  rintro ⟨⟨counting, hcounting, hpositive⟩, -, -⟩
  cases hinstruction.symm.trans hcounting
  omega

/-- An improper request that is proper in absolute terms counts below zero. -/
theorem exists_operandCount_neg (himproper : ¬ request.IsProper buffer)
    (hproper : request.absolute.IsProper buffer) :
    ∃ instruction, request.instruction = some instruction ∧ instruction.operandCount < 0 := by
  obtain ⟨⟨_, habsolute, hcounted⟩, hpresent, husable⟩ := hproper
  obtain ⟨instruction, hinstruction, rfl⟩ := Option.map_eq_some_iff.mp habsolute
  have hnonzero := instruction.operandCount_absolute_pos_iff.mp hcounted
  have hnonpositive : ¬ 0 < instruction.operandCount := fun hpositive =>
    himproper ⟨⟨instruction, hinstruction, hpositive⟩, hpresent, husable⟩
  exact ⟨instruction, hinstruction, by omega⟩

end Request

namespace RuleTable

variable {table : RuleTable} {request : Request} {buffer : Option (List UInt8)}

/-! ### Calls in absolute terms -/

/-- The sign of the operand count has no part in a call. -/
theorem call_absolute (table : RuleTable) (request : Request) (buffer : Option (List UInt8)) :
    table.call request.absolute buffer = table.call request buffer := by
  obtain ⟨instruction, operands, address, given⟩ := request
  rcases instruction with - | instruction
  · rfl
  rcases operands with - | ⟨- | ⟨operand, operands⟩⟩
  · rfl
  · rfl
  -- The checks compare the count with zero, and nothing behind them looks at it but for what is
  -- visible.
  have hcount : instruction.absolute.operandCount = 0 ↔ instruction.operandCount = 0 :=
    Int.natCast_eq_zero.trans Int.natAbs_eq_zero
  exact call_congr_site ⟨instruction.absolute, operand :: operands, address⟩
    ⟨instruction, operand :: operands, address⟩ (List.cons_ne_nil _ _) (List.cons_ne_nil _ _)
    hcount rfl rfl
    (fun _ _ => ⟨rfl, instruction.visible_absolute, rfl, fun _ _ => rfl⟩) given buffer

/-! ### Improper requests -/

/-- A request that does not pass the checks is refused before any rule is looked up. -/
theorem call_of_not_passes (table : RuleTable) (hpasses : ¬ request.Passes buffer) :
    ∃ fault, request.check buffer = .error fault
      ∧ table.call request buffer
        = { answer := .ok
              { verdict := .invalidInput fault
                text := ""
                listed := request.instruction.map fun instruction =>
                  table.lists instruction.mnemonic }
            buffer := buffer
            rows := [] } := by
  rcases hcheck : request.check buffer with fault | job
  · exact ⟨fault, rfl, by rw [call, hcheck]⟩
  · obtain ⟨bytes, hbuffer, hvalid⟩ := Request.exists_valid_of_check hcheck
    exact absurd ⟨bytes, job.site, job.capacity.1, hbuffer, hvalid⟩ hpasses

/-- **An improper request is refused, unless only the sign of its operand count is wrong.**  If it
is improper in absolute terms too, it is invalid input, whatever the table, nothing is logged and
the buffer stays as it was. Otherwise the operand count is negative, and the call is the one that
the request in absolute terms comes to. -/
theorem call_of_not_isProper (table : RuleTable) (himproper : ¬ request.IsProper buffer) :
    (¬ request.absolute.IsProper buffer →
      ∃ fault, request.check buffer = .error fault
        ∧ table.call request buffer
          = { answer := .ok
                { verdict := .invalidInput fault
                  text := ""
                  listed := request.instruction.map fun instruction =>
                    table.lists instruction.mnemonic }
              buffer := buffer
              rows := [] })
    ∧ (request.absolute.IsProper buffer →
      (∃ instruction, request.instruction = some instruction ∧ instruction.operandCount < 0)
      ∧ table.call request buffer = table.call request.absolute buffer) := by
  constructor
  · intro habsolute
    exact call_of_not_passes table fun hpasses =>
      habsolute (Request.passes_iff_isProper_absolute.mp hpasses)
  · intro hproper
    exact ⟨Request.exists_operandCount_neg himproper hproper,
      (table.call_absolute request buffer).symm⟩

/-- A request that counts minus one operand is told like one that counts one and shows minus one.
With one byte more than there is, it is refused. -/
theorem call_mov_counting_below_zero :
    standard.call ⟨some ⟨.mov, -1, none, 0⟩, some [.ofRegister 53, .ofRegister 56], 0, none⟩
        (some (List.replicate 64 0xaa))
      = standard.call
        ⟨some ⟨.mov, 1, some (-1), 0⟩, some [.ofRegister 53, .ofRegister 56], 0, none⟩
        (some (List.replicate 64 0xaa))
    ∧ ∃ fault, standard.call
          ⟨some ⟨.mov, -1, none, 0⟩, some [.ofRegister 53, .ofRegister 56], 0, some 65⟩
          (some (List.replicate 64 0xaa))
        = ⟨.ok ⟨.invalidInput fault, "", some true⟩, some (List.replicate 64 0xaa), []⟩ := by
  constructor
  · refine ((call_of_not_isProper standard ?_).2 ?_).2
    · exact Request.not_isProper_of_operandCount_le rfl (by decide)
    · exact ⟨⟨_, rfl, by decide⟩, ⟨_, rfl, List.cons_ne_nil _ _⟩, ⟨_, rfl, by decide, by decide⟩⟩
  · have himproper : ¬ Request.IsProper
        ⟨some ⟨.mov, -1, none, 0⟩, some [.ofRegister 53, .ofRegister 56], 0, some 65⟩
        (some (List.replicate 64 0xaa)) :=
      Request.not_isProper_of_operandCount_le rfl (by decide)
    obtain ⟨fault, -, hcall⟩ := (call_of_not_isProper standard himproper).1 (by
      rintro ⟨-, -, bytes, ⟨⟩, -, hbounded⟩
      exact absurd hbounded (by decide))
    exact ⟨fault, hcall⟩

/-- So, where the capacity is in bounds, it is not invalid input: not all that is improper is
refused. -/
theorem not_forall_call_eq_invalidInput :
    ¬ ∀ (table : RuleTable) (request : Request) (buffer : Option (List UInt8)),
      ¬ request.IsProper buffer →
      ∃ fault listed, table.call request buffer
        = ⟨.ok ⟨.invalidInput fault, "", listed⟩, buffer, []⟩ := by
  intro hclaim
  have htold : (standard.call ⟨some ⟨.mov, -1, none, 0⟩, some [.ofRegister 53, .ofRegister 56], 0,
        none⟩ (some (List.replicate 64 0xaa))).answer
      = .ok ⟨.success, "(i64)a = (i64)b;", some true⟩ := rfl
  obtain ⟨fault, listed, hcall⟩ := hclaim standard
    ⟨some ⟨.mov, -1, none, 0⟩, some [.ofRegister 53, .ofRegister 56], 0, none⟩
    (some (List.replicate 64 0xaa)) (Request.not_isProper_of_operandCount_le rfl (by decide))
  rw [hcall] at htold
  cases htold

end RuleTable

end X86Gloss
