/-
X86Gloss/Proofs/Record/Decoding.lean

What decoding some code comes to. An instruction has a record unless one of its operands is of a
type without counterpart, and then the first such operand is at fault (`record?_eq_ok_iff`,
`record?_eq_error_iff`). A stream is read from front to back: the first instruction without a record
ends it, and a failure of the disassembler counts only when all instructions that are read have
records.

`Disassembler.Decodes` lists the three ways in which this can end, with what is reported.
`decode_spec` says that decoding ends in one of them and in no other, and what follows for a limited
number of instructions: they are the first of all, and nothing behind them matters.
-/
import X86Gloss.Proofs.Record.Renderable

namespace X86Gloss

/-! ### Operands -/

namespace RawOperand

variable {raw : RawInstruction} {relative : Bool} {source : RawOperand}

/-- Operands with a counterpart are decoded. -/
theorem exists_operand?_iff :
    (∃ operand, source.operand? raw relative = .ok operand) ↔ source.isSupported = true := by
  cases source with
  | register | memory => exact ⟨fun _ => rfl, fun _ => ⟨_, rfl⟩⟩
  | immediate => cases relative <;> exact ⟨fun _ => rfl, fun _ => ⟨_, rfl⟩⟩
  | unsupported type =>
    constructor
    · rintro ⟨operand, h⟩
      cases h
    · intro h
      cases h

/-- The others are at fault, with their type. -/
theorem operand?_eq_error_iff {fault : DecodeFault} :
    source.operand? raw relative = .error fault
      ↔ ∃ type, source = .unsupported type
        ∧ fault = .unsupportedOperand type raw.mnemonic raw.address := by
  cases source with
  | register | memory =>
    constructor
    · intro h
      cases h
    · rintro ⟨type, hsource, -⟩
      cases hsource
  | immediate =>
    constructor
    · intro h
      cases relative <;> cases h
    · rintro ⟨type, hsource, -⟩
      cases hsource
  | unsupported type =>
    constructor
    · intro h
      cases h
      exact ⟨type, rfl, rfl⟩
    · rintro ⟨type', hsource, rfl⟩
      cases hsource
      rfl

end RawOperand

/-! ### Instructions -/

namespace RawInstruction

variable {raw : RawInstruction} {record : Record}

/-- The record is that of the instruction: it has the place and the size of the instruction, its
assembler text, and its operands one by one, which the decoded instruction counts. -/
structure IsRecordedAs (raw : RawInstruction) (record : Record) : Prop where
  address : record.address = raw.address
  size : record.size = raw.size
  assembly : record.assembly = raw.assembly
  operands : List.Forall₂
    (fun source operand => source.operand? raw raw.isDirectBranch = .ok operand)
    raw.operands record.operands
  instruction : record.instruction
    = { mnemonic := .ofSpelling raw.mnemonic
        operandCount := record.operands.length
        length := raw.size }

/-- The first operand without a counterpart is of the type. -/
def FirstUnsupported (raw : RawInstruction) (type : Int) : Prop :=
  ∃ before after, raw.operands = before ++ .unsupported type :: after
    ∧ ∀ source ∈ before, source.isSupported = true

theorem record?_eq_ok_iff : raw.record? = .ok record ↔ raw.IsRecordedAs record := by
  constructor
  · intro h
    rcases hoperands : raw.operands? with fault | operands
    · rw [record?, hoperands] at h
      cases h
    · rw [record?, hoperands] at h
      cases h
      exact ⟨rfl, rfl, rfl, mapM_eq_ok_iff.mp hoperands, rfl⟩
  · rintro ⟨haddress, hsize, hassembly, hoperands, hinstruction⟩
    obtain ⟨address, size, assembly, instruction, operands⟩ := record
    simp only at haddress hsize hassembly hinstruction
    subst haddress hsize hassembly hinstruction
    rw [record?, operands?, mapM_eq_ok_iff.mpr hoperands]
    rfl

theorem record?_eq_error_iff {fault : DecodeFault} :
    raw.record? = .error fault
      ↔ ∃ type, raw.FirstUnsupported type
        ∧ fault = .unsupportedOperand type raw.mnemonic raw.address := by
  -- Only the operands of an instruction can be at fault.
  have hmap : raw.record? = .error fault ↔ raw.operands? = .error fault := by
    rw [record?]
    rcases raw.operands? with fault' | operands
    · constructor <;> intro h <;> cases h <;> rfl
    · constructor <;> intro h <;> cases h
  rw [hmap, operands?, mapM_eq_error_iff]
  simp only [RawOperand.exists_operand?_iff, RawOperand.operand?_eq_error_iff]
  constructor
  · rintro ⟨before, source, after, hoperands, hbefore, type, rfl, rfl⟩
    exact ⟨type, ⟨before, after, hoperands, hbefore⟩, rfl⟩
  · rintro ⟨type, ⟨before, after, hoperands, hbefore⟩, rfl⟩
    exact ⟨before, .unsupported type, after, hoperands, hbefore, type, rfl, rfl⟩

/-- The instructions with a record are those whose operands all have counterparts. -/
theorem exists_record?_iff : (∃ record, raw.record? = .ok record) ↔ raw.isSupported = true := by
  refine ⟨?_, exists_record?⟩
  rintro ⟨record, hrecord⟩
  obtain ⟨hoperands, -, -⟩ := parts_of_record? hrecord
  refine List.all_eq_true.mpr fun source hsource => ?_
  exact RawOperand.exists_operand?_iff.mp (exists_of_mapM_eq_ok hoperands source hsource)

end RawInstruction

/-! ### Streams -/

namespace Disassembler

variable {disassembler : Disassembler} {code : List UInt8} {address count : Int}

/-- How the decoding of a stream ends. -/
inductive Decodes (disassembler : Disassembler) (address count : Int) :
    Except Diagnostic (List Record) → Prop
  /-- An operand has no counterpart, and it is the first one of the first such instruction. -/
  | unsupported {before after : List RawInstruction} {raw : RawInstruction} {type : Int} :
      disassembler.taken count = before ++ raw :: after →
      (∀ earlier ∈ before, earlier.isSupported = true) → raw.FirstUnsupported type →
      Decodes disassembler address count (.error
        (.of (.decoding ("Unsupported capstone operand type " ++ Numeral.decimal type))
          { mnemonic := some raw.mnemonic, address := some raw.address }))
  /-- All operands have counterparts, and then the disassembler fails. -/
  | failed {detail : String} :
      (∀ raw ∈ disassembler.taken count, raw.isSupported = true) →
      disassembler.failure count = some detail →
      Decodes disassembler address count (.error
        (.causedBy (.of (.decoding ("Decoding failed: " ++ detail)) { address := some address })
          (.foreign ⟨"CsError", detail⟩)))
  /-- Each instruction has its record. -/
  | complete {records : List Record} :
      disassembler.failure count = none →
      List.Forall₂ RawInstruction.IsRecordedAs (disassembler.taken count) records →
      Decodes disassembler address count (.ok records)

section Streams

variable {stream : List RawInstruction} {records : List Record}

theorem mapM_record?_eq_ok_iff :
    stream.mapM RawInstruction.record? = .ok records
      ↔ List.Forall₂ RawInstruction.IsRecordedAs stream records := by
  simp only [mapM_eq_ok_iff, RawInstruction.record?_eq_ok_iff]

/-- A stream has records exactly if all operands of its instructions have counterparts. -/
theorem exists_records_iff :
    (∃ records, stream.mapM RawInstruction.record? = .ok records)
      ↔ ∀ raw ∈ stream, raw.isSupported = true := by
  simp only [← RawInstruction.exists_record?_iff]
  exact ⟨fun ⟨_, hrecords⟩ => exists_of_mapM_eq_ok hrecords, exists_mapM_eq_ok⟩

/-- Otherwise the first operand without a counterpart is at fault. -/
theorem mapM_record?_eq_error_iff {fault : DecodeFault} :
    stream.mapM RawInstruction.record? = .error fault
      ↔ ∃ before raw after type, stream = before ++ raw :: after
        ∧ (∀ earlier ∈ before, earlier.isSupported = true) ∧ raw.FirstUnsupported type
        ∧ fault = .unsupportedOperand type raw.mnemonic raw.address := by
  simp only [mapM_eq_error_iff, RawInstruction.exists_record?_iff,
    RawInstruction.record?_eq_error_iff, exists_and_left]

end Streams

/-! ### Decoding -/

theorem decode_of_ne_nil (hcode : code ≠ []) :
    disassembler.decode code address count = disassembler.decodeStream address count := by
  rw [decode, if_neg]
  rwa [List.isEmpty_iff]

theorem decodeStream_eq_ok_iff {records : List Record} :
    disassembler.decodeStream address count = .ok records
      ↔ disassembler.failure count = none
        ∧ List.Forall₂ RawInstruction.IsRecordedAs (disassembler.taken count) records := by
  rw [← mapM_record?_eq_ok_iff, decodeStream]
  rcases (disassembler.taken count).mapM RawInstruction.record? with fault | records'
  · constructor
    · intro h
      cases h
    · rintro ⟨-, h⟩
      cases h
  · rcases disassembler.failure count with - | detail
    · exact ⟨fun h => ⟨rfl, h⟩, fun h => h.2⟩
    · constructor
      · intro h
        cases h
      · rintro ⟨h, -⟩
        cases h

/-- Decoding ends in one of the three ways. -/
theorem decodes_decodeStream (disassembler : Disassembler) (address count : Int) :
    disassembler.Decodes address count
      ((disassembler.decodeStream address count).mapError DecodeFault.diagnostic) := by
  rw [decodeStream]
  rcases hstream : (disassembler.taken count).mapM RawInstruction.record? with fault | records
  · obtain ⟨before, raw, after, type, htaken, hbefore, htype, rfl⟩ :=
      mapM_record?_eq_error_iff.mp hstream
    exact .unsupported htaken hbefore htype
  · rcases hfailure : disassembler.failure count with - | detail
    · exact .complete hfailure (mapM_record?_eq_ok_iff.mp hstream)
    · exact .failed (exists_records_iff.mp ⟨records, hstream⟩) hfailure

/-- It ends in no other way than the one it does. -/
theorem Decodes.eq_decodeStream {result : Except Diagnostic (List Record)}
    (h : disassembler.Decodes address count result) :
    (disassembler.decodeStream address count).mapError DecodeFault.diagnostic = result := by
  cases h with
  | unsupported htaken hbefore htype =>
    have hstream := mapM_record?_eq_error_iff.mpr ⟨_, _, _, _, htaken, hbefore, htype, rfl⟩
    rw [decodeStream, hstream]
    rfl
  | failed hsupported hfailure =>
    obtain ⟨records, hstream⟩ := exists_records_iff.mpr hsupported
    rw [decodeStream, hstream, hfailure]
    rfl
  | complete hfailure hrecords =>
    rw [decodeStream_eq_ok_iff.mpr ⟨hfailure, hrecords⟩]
    rfl

/-! ### Limited numbers of instructions -/

theorem taken_natCast {n : Nat} (hpositive : 0 < n) :
    disassembler.taken n = disassembler.instructions.take n := by
  rw [taken, if_pos (Int.natCast_pos.mpr hpositive), Int.toNat_natCast]

/-- The failure at the end is met unless the number is reached before. -/
theorem failure_eq_none_iff {n : Nat} (hpositive : 0 < n) :
    disassembler.failure n = none
      ↔ n ≤ disassembler.instructions.length ∨ disassembler.endFailure = none := by
  have hstops : disassembler.stopsAt n = decide (n ≤ disassembler.instructions.length) := by
    simp only [stopsAt, Int.natCast_pos, hpositive, decide_true, Bool.true_and, Int.ofNat_le]
  rw [failure, hstops]
  by_cases hreached : n ≤ disassembler.instructions.length
  · simp only [hreached, decide_true, if_true, true_or]
  · simp only [hreached, decide_false, Bool.false_eq_true, if_false, false_or]

/-- **Decoding keeps the order, gives all or nothing, and reports what went wrong first.**  Decoding
some code ends in one of the three ways. If all instructions can be decoded, a limited number gives
the records of the first ones; and it gives records whenever these can be decoded and the number is
reached or the disassembler does not fail, whatever the instructions behind them. -/
theorem decode_spec (disassembler : Disassembler) (code : List UInt8) (hcode : code ≠ [])
    (address : Int) :
    (∀ count result,
      (disassembler.decode code address count).mapError DecodeFault.diagnostic = result
        ↔ disassembler.Decodes address count result)
    ∧ (∀ (n : Nat) records, 0 < n → disassembler.decode code address 0 = .ok records →
      disassembler.decode code address n = .ok (records.take n))
    ∧ ∀ n : Nat, 0 < n →
      ((∃ records, disassembler.decode code address n = .ok records)
        ↔ (∀ raw ∈ disassembler.instructions.take n, raw.isSupported = true)
          ∧ (n ≤ disassembler.instructions.length ∨ disassembler.endFailure = none)) := by
  simp only [decode_of_ne_nil hcode]
  refine ⟨?_, ?_, ?_⟩
  · intro count result
    constructor
    · rintro rfl
      exact decodes_decodeStream disassembler address count
    · exact Decodes.eq_decodeStream
  · intro n records hpositive hall
    obtain ⟨hfailure, hrecords⟩ := decodeStream_eq_ok_iff.mp hall
    refine decodeStream_eq_ok_iff.mpr ⟨(failure_eq_none_iff hpositive).mpr (.inr hfailure), ?_⟩
    rw [taken_natCast hpositive]
    exact List.forall₂_take n hrecords
  · intro n hpositive
    simp only [decodeStream_eq_ok_iff, exists_and_left, ← mapM_record?_eq_ok_iff,
      exists_records_iff, failure_eq_none_iff hpositive, taken_natCast hpositive]
    exact and_comm

/-- A return, and then a load whose second operand has no counterpart, after which the disassembler
would fail. -/
def returnBeforeUnsupported : Disassembler where
  startFailure := none
  instructions := [
    ⟨"ret", "", 1, 0x400000, false, false, []⟩,
    ⟨"fld", "st(0)", 2, 0x400001, false, false, [.register (some "st(0)"), .unsupported 64]⟩]
  endFailure := some "out of memory"

/-- One instruction is decoded, where decoding all of them fails. -/
theorem decode_returnBeforeUnsupported :
    (∃ records, returnBeforeUnsupported.decode [0xc3, 0xd9] 0x400000 1 = .ok records)
    ∧ (returnBeforeUnsupported.decode [0xc3, 0xd9] 0x400000 0).mapError DecodeFault.diagnostic
      = .error (.of (.decoding "Unsupported capstone operand type 64")
          { mnemonic := some "fld", address := some 0x400001 }) := by
  obtain ⟨hends, -, hlimited⟩ :=
    decode_spec returnBeforeUnsupported [0xc3, 0xd9] (by decide) 0x400000
  refine ⟨(hlimited 1 (by decide)).mpr ⟨by decide, .inl (by decide)⟩, (hends 0 _).mpr ?_⟩
  have hearlier : ∀ earlier ∈ [RawInstruction.mk "ret" "" 1 0x400000 false false []],
      earlier.isSupported = true := by decide
  have htype : RawInstruction.FirstUnsupported
      ⟨"fld", "st(0)", 2, 0x400001, false, false, [.register (some "st(0)"), .unsupported 64]⟩ 64 :=
    ⟨[.register (some "st(0)")], [], rfl, by decide⟩
  exact .unsupported rfl hearlier htype

end Disassembler

end X86Gloss
