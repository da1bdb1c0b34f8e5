/-
X86Gloss/Proofs/Gloss/Ending.lean

The five ways in which a call can end, with the reply that each of them gives. `RuleTable.Ends`
lists them; `exists_ends` says that with a table of ASCII words every call ends in one of them, be
its instruction, its operands or its buffer there or not. What holds of all replies is proved by
going through the five.
-/
import X86Gloss.Proofs.Gloss.Cut

namespace X86Gloss

namespace RuleTable

/-- How a call ends. -/
inductive Ends (table : RuleTable) (request : Request) : Option (List UInt8) → Reply → Prop
  /-- The request fails a check. -/
  | refused {buffer : Option (List UInt8)} {fault : InputFault}
      (hcheck : request.check buffer = .error fault) :
    Ends table request buffer
      { result :=
          { verdict := .invalidInput fault
            text := ""
            listed := request.instruction.map fun instruction => table.lists instruction.mnemonic }
        buffer
        rows := [] }
  /-- The mnemonic has no rule. -/
  | ruleless {buffer : List UInt8} {site : Site} {capacity : Nat}
      (hvalid : request.Valid buffer.length site capacity)
      (hrule : table.rule? site.instruction.mnemonic = none) :
    Ends table request (some buffer)
      { result := ⟨.noStatement site.instruction.mnemonic site.address, "", some false⟩
        buffer := some (stamp "" buffer)
        rows := [noRuleRow site] }
  /-- A piece of the statement does not fit. -/
  | cut {buffer : List UInt8} {site : Site} {capacity : Nat} {rule : Rule} {before : List String}
      {piece : String} (hvalid : request.Valid buffer.length site capacity)
      (hrule : table.rule? site.instruction.mnemonic = some rule)
      (hcut : (rule.statement site).CutAt capacity before piece) :
    Ends table request (some buffer)
      { result :=
          { verdict := .capacityExhausted site.instruction.mnemonic site.address piece.length
              (capacity - 1 - (String.join before).length)
            text := String.join before
            listed := some true }
        buffer := some (stamp (String.join before) buffer)
        rows := [noRoomRow site capacity] }
  /-- All pieces fit, and an operand behind them has no text. -/
  | faulty {buffer : List UInt8} {site : Site} {capacity : Nat} {rule : Rule}
      {fault : OperandFault} (hvalid : request.Valid buffer.length site capacity)
      (hrule : table.rule? site.instruction.mnemonic = some rule)
      (hfits : (rule.statement site).text.length < capacity)
      (hfault : (rule.statement site).fault = some fault) :
    Ends table request (some buffer)
      { result := ⟨.invalidInput (.operand fault), "", some true⟩
        buffer := some buffer
        rows := [] }
  /-- All pieces fit, and nothing follows them. -/
  | whole {buffer : List UInt8} {site : Site} {capacity : Nat} {rule : Rule}
      (hvalid : request.Valid buffer.length site capacity)
      (hrule : table.rule? site.instruction.mnemonic = some rule)
      (hfits : (rule.statement site).text.length < capacity)
      (hnone : (rule.statement site).fault = none) :
    Ends table request (some buffer)
      { result := ⟨.success, (rule.statement site).text, some true⟩
        buffer := some (stamp (rule.statement site).text buffer)
        rows := [] }

variable {table : RuleTable}

/-- Every call with a table of ASCII words ends in one of the five ways. -/
theorem exists_ends (hascii : table.HasAsciiTexts) (request : Request)
    (buffer : Option (List UInt8)) :
    ∃ reply, table.gloss request buffer = .ok reply ∧ table.Ends request buffer reply := by
  -- The five ways in the order in which a call finds out: the check, the rule, the room, the fault.
  rcases hcheck : request.check buffer with fault | job
  · exact ⟨_, gloss_of_check_eq_error hcheck, .refused hcheck⟩
  obtain ⟨bytes, rfl, hvalid⟩ := Request.exists_valid_of_check hcheck
  rcases hrule : table.rule? job.site.instruction.mnemonic with - | rule
  · exact ⟨_, gloss_noRule hvalid hrule, .ruleless hvalid hrule⟩
  have hwords := hascii _ _ hrule
  rcases Nat.lt_or_ge (rule.statement job.site).text.length job.capacity.1 with hfits | hlong
  · rcases hfault : (rule.statement job.site).fault with - | fault
    · exact ⟨_, gloss_fits hvalid hrule hwords hfits hfault, .whole hvalid hrule hfits hfault⟩
    · exact ⟨_, gloss_fault hvalid hrule hwords hfits hfault, .faulty hvalid hrule hfits hfault⟩
  · obtain ⟨before, piece, hcut⟩ := Emission.exists_cutAt hvalid.positive hlong
    exact ⟨_, gloss_cut hvalid hrule hwords hcut, .cut hvalid hrule hcut⟩

/-- So does any call that is known by its reply. -/
theorem ends_of_gloss (hascii : table.HasAsciiTexts) {request : Request}
    {buffer : Option (List UInt8)} {reply : Reply} (h : table.gloss request buffer = .ok reply) :
    table.Ends request buffer reply := by
  obtain ⟨reply', hreply, hends⟩ := exists_ends hascii request buffer
  cases h.symm.trans hreply
  exact hends

end RuleTable

end X86Gloss
