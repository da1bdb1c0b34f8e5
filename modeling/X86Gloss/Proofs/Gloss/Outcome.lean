/-
X86Gloss/Proofs/Gloss/Outcome.lean

What a reply says beside its outcome. Each outcome has an error of its own kind, or none, and
leaves rows of its own: one debug row where the statement is missing or too long, and no row
otherwise. A statement is missing exactly when a valid request names a mnemonic without a rule;
neither the operands nor the capacity have a part in it. Whether the mnemonic is listed is told of
every instruction, and only a missing statement is told as not listed though the table may list it.

`Reply.IsCoherent` holds all this of a reply, and `RuleTable.gloss_isCoherent` says that every call
with a table of ASCII words gets a coherent reply.
-/
import X86Gloss.Proofs.Gloss.Ending

namespace X86Gloss

/-! ### Faults are input problems -/

theorem OperandFault.isInput_problem (fault : OperandFault) : fault.problem.isInput = true := by
  cases fault <;> rfl

theorem InputFault.isInput_problem (fault : InputFault) : fault.problem.isInput = true := by
  cases fault with
  | noInstruction | noOperands | noOperandCount => rfl
  | buffer fault => cases fault <;> rfl
  | operand fault => exact fault.isInput_problem

/-! ### Requests that pass and rules that are there -/

/-- The request passes every check with the buffer. -/
def Request.Passes (request : Request) (buffer : Option (List UInt8)) : Prop :=
  ∃ bytes site capacity, buffer = some bytes ∧ request.Valid bytes.length site capacity

/-- The table has no rule for the instruction of the request, be its mnemonic listed or not. -/
def RuleTable.LacksRule (table : RuleTable) (request : Request) : Prop :=
  ∀ instruction, request.instruction = some instruction →
    table.rule? instruction.mnemonic = none

theorem Request.not_passes_of_check_eq_error {request : Request} {buffer : Option (List UInt8)}
    {fault : InputFault} (h : request.check buffer = .error fault) : ¬ request.Passes buffer := by
  rintro ⟨bytes, site, capacity, rfl, hvalid⟩
  rw [hvalid.check_eq] at h
  cases h

/-- A mnemonic with a rule is listed. -/
theorem RuleTable.lists_of_rule? {table : RuleTable} {mnemonic : Mnemonic} {rule : Rule}
    (h : table.rule? mnemonic = some rule) : table.lists mnemonic = true := by
  rw [lists, Option.join_eq_some_iff.mp h]
  rfl

/-! ### Coherent replies -/

/-- The reply to the request with the buffer says what its outcome asks for, and no more. -/
structure Reply.IsCoherent (reply : Reply) (table : RuleTable) (request : Request)
    (buffer : Option (List UInt8)) : Prop where
  /-- Whatever is no success comes with an error. -/
  error_eq_none_iff : reply.result.error = none ↔ reply.result.outcome = .success
  success : reply.result.outcome = .success → reply.rows = []
  invalidInput : reply.result.outcome = .invalidInput →
    (∃ diagnostic, reply.result.error = some diagnostic
      ∧ diagnostic.report.problem.isInput = true)
    ∧ reply.result.text = "" ∧ reply.rows = []
  noStatement_iff : reply.result.outcome = .noStatement ↔
    request.Passes buffer ∧ table.LacksRule request
  noStatement : reply.result.outcome = .noStatement →
    ∃ instruction, request.instruction = some instruction
      ∧ reply.result.error = some (.of (.noStatement instruction.mnemonic.text)
        { mnemonic := some instruction.mnemonic.text, address := some request.address })
      ∧ reply.result.text = "" ∧ ∃ row, reply.rows = [row] ∧ row.level = .debug
  capacityExhausted : reply.result.outcome = .capacityExhausted →
    ∃ (instruction : Instruction) (requested remaining : Nat),
      request.instruction = some instruction ∧ remaining < requested
      ∧ reply.result.error = some (.of (.noRoom requested remaining)
        { mnemonic := some instruction.mnemonic.text, address := some request.address })
      ∧ ∃ row, reply.rows = [row] ∧ row.level = .debug
  listed_eq_none_iff : reply.result.listed = none ↔ request.instruction = none
  /-- A missing statement counts as not listed. -/
  listed_of_noStatement : reply.result.outcome = .noStatement → reply.result.listed = some false
  listed_of_ne : reply.result.outcome ≠ .noStatement →
    reply.result.listed = request.instruction.map fun instruction =>
      table.lists instruction.mnemonic

namespace Reply

variable {table : RuleTable} {request : Request} {buffer : List UInt8} {given : Option (List UInt8)}
variable {site : Site} {capacity : Nat} {rule : Rule}

/-- An instruction with a rule is listed. -/
theorem listed_of_valid (hvalid : request.Valid buffer.length site capacity)
    (hrule : table.rule? site.instruction.mnemonic = some rule) :
    some true = request.instruction.map fun instruction => table.lists instruction.mnemonic := by
  rw [hvalid.instruction, Option.map_some, RuleTable.lists_of_rule? hrule]

theorem not_lacksRule_of_valid (hvalid : request.Valid buffer.length site capacity)
    (hrule : table.rule? site.instruction.mnemonic = some rule) : ¬ table.LacksRule request := by
  intro hlacks
  rw [hlacks _ hvalid.instruction] at hrule
  cases hrule

/-- Invalid input is answered coherently, whether a check or an operand found it. -/
theorem isCoherent_invalidInput (fault : InputFault) (after : Option (List UInt8))
    (hlacks : ¬ (request.Passes given ∧ table.LacksRule request)) {listed : Option Bool}
    (hlisted : listed = request.instruction.map fun instruction =>
      table.lists instruction.mnemonic) :
    (⟨⟨.invalidInput fault, "", listed⟩, after, []⟩ : Reply).IsCoherent table request given where
  error_eq_none_iff := ⟨nofun, nofun⟩
  success := nofun
  invalidInput := fun _ => ⟨⟨_, rfl, fault.isInput_problem⟩, rfl, rfl⟩
  noStatement_iff := ⟨nofun, fun h => absurd h hlacks⟩
  noStatement := nofun
  capacityExhausted := nofun
  listed_eq_none_iff := by rw [hlisted, Option.map_eq_none_iff]
  listed_of_noStatement := nofun
  listed_of_ne := fun _ => hlisted

/-- So is a missing statement. -/
theorem isCoherent_noStatement (hvalid : request.Valid buffer.length site capacity)
    (hrule : table.rule? site.instruction.mnemonic = none) (after : Option (List UInt8)) :
    (⟨⟨.noStatement site.instruction.mnemonic site.address, "", some false⟩, after,
      [noRuleRow site]⟩ : Reply).IsCoherent table request (some buffer) where
  error_eq_none_iff := ⟨nofun, nofun⟩
  success := nofun
  invalidInput := nofun
  noStatement_iff := by
    refine ⟨fun _ => ⟨⟨buffer, site, capacity, rfl, hvalid⟩, ?_⟩, fun _ => rfl⟩
    intro instruction hinstruction
    cases hvalid.instruction.symm.trans hinstruction
    exact hrule
  noStatement := by
    intro _
    refine ⟨site.instruction, hvalid.instruction, ?_, rfl, noRuleRow site, rfl, rfl⟩
    rw [hvalid.address]
    rfl
  capacityExhausted := nofun
  listed_eq_none_iff := by rw [hvalid.instruction]; exact ⟨nofun, nofun⟩
  listed_of_noStatement := fun _ => rfl
  listed_of_ne := fun h => absurd rfl h

/-- So is a piece that does not fit. -/
theorem isCoherent_cut (hvalid : request.Valid buffer.length site capacity)
    (hrule : table.rule? site.instruction.mnemonic = some rule) {before : List String}
    {piece : String} (hcut : (rule.statement site).CutAt capacity before piece)
    (after : Option (List UInt8)) :
    (⟨⟨.capacityExhausted site.instruction.mnemonic site.address piece.length
        (capacity - 1 - (String.join before).length), String.join before, some true⟩, after,
      [noRoomRow site capacity]⟩ : Reply).IsCoherent table request (some buffer) where
  error_eq_none_iff := ⟨nofun, nofun⟩
  success := nofun
  invalidInput := nofun
  noStatement_iff := ⟨nofun, fun h => absurd h.2 (not_lacksRule_of_valid hvalid hrule)⟩
  noStatement := nofun
  capacityExhausted := by
    intro _
    -- The piece is longer than the room, by which the cut was found.
    have hfits := hcut.fits
    have hexceeds := hcut.exceeds
    refine ⟨site.instruction, piece.length, capacity - 1 - (String.join before).length,
      hvalid.instruction, by omega, ?_, noRoomRow site capacity, rfl, rfl⟩
    rw [hvalid.address]
    rfl
  listed_eq_none_iff := by rw [hvalid.instruction]; exact ⟨nofun, nofun⟩
  listed_of_noStatement := nofun
  listed_of_ne := fun _ => listed_of_valid hvalid hrule

/-- So is a statement that was told. -/
theorem isCoherent_success (hvalid : request.Valid buffer.length site capacity)
    (hrule : table.rule? site.instruction.mnemonic = some rule) (text : String)
    (after : Option (List UInt8)) :
    (⟨⟨.success, text, some true⟩, after, []⟩ : Reply).IsCoherent table request (some buffer) where
  error_eq_none_iff := ⟨fun _ => rfl, fun _ => rfl⟩
  success := fun _ => rfl
  invalidInput := nofun
  noStatement_iff := ⟨nofun, fun h => absurd h.2 (not_lacksRule_of_valid hvalid hrule)⟩
  noStatement := nofun
  capacityExhausted := nofun
  listed_eq_none_iff := by rw [hvalid.instruction]; exact ⟨nofun, nofun⟩
  listed_of_noStatement := nofun
  listed_of_ne := fun _ => listed_of_valid hvalid hrule

end Reply

namespace RuleTable

variable {table : RuleTable}

/-- **Every call gets a coherent reply.**  With a table of ASCII words no call is refused, whatever
it lacks, and what the reply says beside its outcome is what the outcome asks for. -/
theorem gloss_isCoherent (hascii : table.HasAsciiTexts) (request : Request)
    (buffer : Option (List UInt8)) :
    ∃ reply, table.gloss request buffer = .ok reply ∧ reply.IsCoherent table request buffer := by
  obtain ⟨reply, hreply, hends⟩ := exists_ends hascii request buffer
  refine ⟨reply, hreply, ?_⟩
  -- Each way to end has its lemma; invalid input is the same whether a check or an operand found
  -- it.
  cases hends with
  | refused hcheck =>
    have hpasses := Request.not_passes_of_check_eq_error hcheck
    exact Reply.isCoherent_invalidInput _ _ (fun h => hpasses h.1) rfl
  | ruleless hvalid hrule => exact Reply.isCoherent_noStatement hvalid hrule _
  | cut hvalid hrule hcut => exact Reply.isCoherent_cut hvalid hrule hcut _
  | faulty hvalid hrule hfits hfault =>
    have hlacks := Reply.not_lacksRule_of_valid hvalid hrule
    exact Reply.isCoherent_invalidInput _ _ (fun h => hlacks h.2)
      (Reply.listed_of_valid hvalid hrule)
  | whole hvalid hrule hfits hnone => exact Reply.isCoherent_success hvalid hrule _ _

/-- A table lists a mnemonic without a rule: a far pointer, which has no text, is not even looked
at in the one byte that there is. -/
theorem gloss_listed_without_rule :
    ∃ reply,
      (ofList [(.mov, none), (.add, some (.assign " += "))]).gloss
          ⟨some ⟨.mov, 1, none, 0⟩, some [.ofPointer ⟨1, 2⟩], 0x10, some 1⟩ (some [0xff])
        = .ok reply
      ∧ reply.result.outcome = .noStatement ∧ reply.result.listed = some false
      ∧ (ofList [(.mov, none), (.add, some (.assign " += "))]).lists .mov = true := by
  have hascii : (ofList [(.mov, none), (.add, some (.assign " += "))]).HasAsciiTexts := by
    refine hasAsciiTexts_ofList ?_
    intro entry hentry rule hrule
    simp only [List.mem_cons, List.not_mem_nil, or_false] at hentry
    rcases hentry with rfl | rfl <;> cases hrule
    decide
  obtain ⟨reply, hreply, hcoherent⟩ := gloss_isCoherent hascii
    ⟨some ⟨.mov, 1, none, 0⟩, some [.ofPointer ⟨1, 2⟩], 0x10, some 1⟩ (some [0xff])
  -- No rule is found, so the operand is never asked for a text.
  have hmissing : reply.result.outcome = .noStatement := by
    refine hcoherent.noStatement_iff.mpr
      ⟨⟨[0xff], ⟨⟨.mov, 1, none, 0⟩, [.ofPointer ⟨1, 2⟩], 0x10⟩, 1, rfl, ?_⟩, ?_⟩
    · exact ⟨rfl, rfl, rfl, by decide, by decide, rfl, by decide, by decide⟩
    · rintro instruction ⟨⟩
      rfl
  exact ⟨reply, hreply, hmissing, hcoherent.listed_of_noStatement hmissing, rfl⟩

end RuleTable

end X86Gloss
