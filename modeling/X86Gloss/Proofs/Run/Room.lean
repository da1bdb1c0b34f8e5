/-
X86Gloss/Proofs/Run/Room.lean

How much room is always enough. The length of a standard statement is bounded by the number of its
visible operands (`Rule.isWithin_statement`), so a capacity beyond the bound is never exhausted,
whatever numbers the operands hold. The largest buffer of the command line is beyond the bound for
40 operands: a record with no more of them is told from whatever capacity the doubling starts.

`room_for_operands` states the bound for calls, for records and for runs.
-/
import X86Gloss.Proofs.Gloss.Ending
import X86Gloss.Proofs.Record.Renderable
import X86Gloss.Proofs.Run.Protocol
import X86Gloss.Proofs.Statement.Length

namespace X86Gloss

/-! ### Calls -/

namespace RuleTable

/-- With a capacity beyond the bound a call does not run out of room. -/
theorem gloss_of_room (site : Site) (given : Option Int) (buffer : List UInt8)
    (hroom : 98 * max 2 site.instruction.visible + 100 < given.getD buffer.length) :
    ∃ reply, standard.gloss (site.request given) (some buffer) = .ok reply
      ∧ reply.result.outcome ≠ .capacityExhausted := by
  obtain ⟨reply, hreply, hends⟩ :=
    exists_ends hasAsciiTexts_standard (site.request given) (some buffer)
  refine ⟨reply, hreply, ?_⟩
  cases hends with
  | @cut _ site' capacity rule _ _ hvalid hrule hcut =>
    -- A statement that is cut is longer than the bound.
    have hinstruction : site.instruction = site'.instruction := Option.some.inj hvalid.instruction
    have heffective : given.getD buffer.length = capacity := hvalid.effective
    have hlong := hcut.capacity_le
    have hwithin : (rule.statement site').text.length ≤ _ :=
      Rule.isWithin_statement site' (isBrief_of_standardRule? ((rule?_standard _).symm.trans hrule))
    rw [hinstruction] at hroom
    omega
  | refused _ | ruleless _ _ | faulty _ _ _ _ | whole _ _ _ _ => nofun

end RuleTable

/-! ### Records -/

namespace Record

/-- The largest buffer of the command line takes 40 operands. -/
theorem exists_text? (record : Record) (h : record.instruction.visible ≤ 40) :
    ∃ text, record.text? standardLimit.toNat = some text := by
  -- The buffer has 4096 bytes, and the bound for 40 operands is 4020.
  have hroom : 98 * max 2 record.instruction.visible + 100
      < ((List.replicate standardLimit.toNat (0 : UInt8)).length : Int) := by
    rw [List.length_replicate]
    show _ < (4096 : Int)
    omega
  obtain ⟨reply, hreply, houtcome⟩ := RuleTable.gloss_of_room record.site none
    (List.replicate standardLimit.toNat 0) hroom
  have htext : record.text? standardLimit.toNat
      = (record.told standardLimit.toNat reply.result).toOption := by
    change RuleTable.standard.gloss record.request _ = _ at hreply
    simp only [text?, hreply]
  rw [htext, told]
  cases hresult : reply.result.outcome with
  | success => exact ⟨_, rfl⟩
  | invalidInput | noStatement => exact ⟨_, rfl⟩
  | capacityExhausted => exact absurd hresult houtcome

end Record

/-! ### Runs -/

/-- Which record of a run does not fit has more than 40 operands. -/
theorem Options.Reaches.length_operands {options : Options} {input : String}
    {disassembler : Disassembler} {code : List UInt8} {records : List Record} {record : Record}
    (h : options.Reaches input disassembler standardLimit code records)
    (hrecord : records[fittingCount standardLimit.toNat records]? = some record) :
    40 < record.operands.length := by
  obtain ⟨hlt, hget⟩ := List.getElem?_eq_some_iff.mp hrecord
  have hnone : (record.text? standardLimit.toNat).isNone = true := by
    rw [← hget]
    exact List.findIdx_getElem (w := hlt)
  have hshown := (Disassembler.isConsistent_of_mem_decode h.decoded
    (List.mem_of_getElem? hrecord)).shown
  by_contra hfew
  obtain ⟨text, htext⟩ := Record.exists_text? record (by omega)
  rw [htext] at hnone
  cases hnone

/-- **The room that a statement takes is linear in its operands.**  A call with more room than 98
bytes for each visible operand, two at least, and 100 besides does not exhaust it, whatever
registers, displacements, factors and constants there are. So a decoded record with up to 40
operands is told from any capacity of the command line, and a run that reports a record as too long
has met one with more. -/
theorem room_for_operands :
    (∀ (site : Site) (given : Option Int) (buffer : List UInt8),
      98 * max 2 site.instruction.visible + 100 < given.getD buffer.length →
      ∃ reply, RuleTable.standard.gloss (site.request given) (some buffer) = .ok reply
        ∧ reply.result.outcome ≠ .capacityExhausted)
    ∧ (∀ (disassembler : Disassembler) (code : List UInt8) (address count : Int)
        (records : List Record), disassembler.decode code address count = .ok records →
      ∀ record ∈ records, record.operands.length ≤ 40 →
      ∀ capacity : Nat, 0 < capacity → capacity ≤ standardLimit.toNat →
      ∃ text, (RuleTable.standard.tell record standardLimit.toNat capacity).text = .ok text)
    ∧ ∀ (options : Options) (input : String) (disassembler : Disassembler) (code : List UInt8)
        (records : List Record),
      options.Reaches input disassembler standardLimit code records →
      ∃ exit, options.run input disassembler standardLimit = .ok exit
        ∧ (exit.Reports (options.shortfall code records)
          ∨ ∃ record ∈ records, 40 < record.operands.length
            ∧ exit.Reports (some (.ofReport (record.tooLong standardLimit.toNat)))) := by
  refine ⟨RuleTable.gloss_of_room, ?_, ?_⟩
  · intro disassembler code address count records hdecode record hrecord hfew capacity hpositive
      hbounded
    have hshown := (Disassembler.isConsistent_of_mem_decode hdecode hrecord).shown
    obtain ⟨text, htext⟩ := Record.exists_text? record (by omega)
    refine ⟨text, ?_⟩
    -- Where the doubling starts does not matter: a run tells what the largest buffer takes.
    rw [Listing.tell_eq_text? hpositive hbounded, htext]
  · intro options input disassembler code records hreaches
    obtain ⟨exit, hrun, hreports, -⟩ := Options.run_of_reaches hreaches
    refine ⟨exit, hrun, ?_⟩
    rw [Options.listingFailure] at hreports
    -- Either every record fits, or the run stops at one that is longer than the largest buffer.
    rcases hlong : records[fittingCount standardLimit.toNat records]? with - | record
    · rw [hlong] at hreports
      exact .inl hreports
    · rw [hlong] at hreports
      exact .inr ⟨record, List.mem_of_getElem? hlong, hreaches.length_operands hlong, hreports⟩

/-- Numbers beyond all words, in the least room that the bound asks for, and in a run that starts
from one byte. -/
theorem room_for_operands_large :
    (∃ reply, RuleTable.standard.gloss
        (Site.request ⟨⟨.lea, 2, none, 0⟩,
          [.ofRegister 53,
            .ofMemory ⟨.direct, 0, 53, 54, 0x10000000000000000, some (-0x10000000000000000)⟩], 0⟩
          (some 297))
        (some (List.replicate 300 0xff)) = .ok reply
      ∧ reply.result.outcome ≠ .capacityExhausted)
    ∧ ∃ record, Disassembler.decode
        ⟨none, [⟨"mov", "?", 1, 0, false, false, [.immediate 0x10000000000000000]⟩], none⟩
          [0x90] 0x400000 0 = .ok [record]
      ∧ (∃ text, (RuleTable.standard.tell record standardLimit.toNat 1).text = .ok text)
      ∧ ∃ exit, Options.run { hex := some "90", capacity := 1 } ""
          ⟨none, [⟨"mov", "?", 1, 0, false, false, [.immediate 0x10000000000000000]⟩], none⟩
          standardLimit = .ok exit
        ∧ exit.code = 0 := by
  obtain ⟨hcall, htell, hrun⟩ := room_for_operands
  have hdecode : Disassembler.decode
      ⟨none, [⟨"mov", "?", 1, 0, false, false, [.immediate 0x10000000000000000]⟩], none⟩
        [0x90] 0x400000 0
      = .ok [⟨0, 1, "mov ?", ⟨.ofSpelling "mov", 1, none, 1⟩,
        [.ofImmediate ⟨0x10000000000000000, false, false⟩]⟩] := rfl
  refine ⟨hcall _ _ _ (by decide), _, hdecode, ?_, ?_⟩
  · exact htell _ _ _ _ _ hdecode _ List.mem_cons_self (by decide) 1 (by decide) (by decide)
  · obtain ⟨exit, hexit, hreports | ⟨record, hrecord, hmany, -⟩⟩ :=
      hrun { hex := some "90", capacity := 1 } "" _ [0x90] _
        ⟨by decide, by decide, rfl, rfl, hdecode, List.cons_ne_nil _ _⟩
    · exact ⟨exit, hexit, hreports.code⟩
    · cases List.mem_singleton.mp hrecord
      exact absurd hmany (by decide)

end X86Gloss
