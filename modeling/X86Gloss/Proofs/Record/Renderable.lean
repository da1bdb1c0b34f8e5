/-
X86Gloss/Proofs/Record/Renderable.lean

Whatever decoding makes of a stream can be rendered. Names that no register has stand for no
register, so every identifier in a record is inside the register table
(`RegisterLookup.isId_id`); and an operand is made with the payload of its kind, or not at all
(`RawOperand.isWellFormed_of_operand?`). Nothing but the room of a sink therefore stops the
writing of an operand (`Operand.IsWellFormed.halts_for_room`).

`Disassembler.isConsistent_of_mem_decode` says so of all records of a stream, together with the
counts that an instruction keeps of its operands.
-/
import Mathlib.Data.List.Forall2
import X86Gloss.Proofs.Operand.Rendering
import X86Gloss.Record

namespace X86Gloss

/-! ### Lists of results -/

section Results

variable {α β ε : Type} {f : α → Except ε β}

/-- A list comes to a list of results exactly when each element comes to its result. -/
theorem mapM_eq_ok_iff {xs : List α} {ys : List β} :
    xs.mapM f = .ok ys ↔ List.Forall₂ (fun x y => f x = .ok y) xs ys := by
  induction xs generalizing ys with
  | nil =>
    rw [List.mapM_nil, List.forall₂_nil_left_iff]
    exact ⟨fun h => (Except.ok.inj h).symm, fun h => congrArg Except.ok h.symm⟩
  | cons x xs ih =>
    rw [List.mapM_cons, List.forall₂_cons_left_iff]
    constructor
    · intro h
      -- The first element with a fault ends the list, so both the head and the rest have come to
      -- results.
      rcases hx : f x with fault | y
      · rw [hx] at h
        cases h
      · rcases hxs : xs.mapM f with fault | ys'
        · rw [hx, hxs] at h
          cases h
        · rw [hx, hxs] at h
          exact ⟨y, ys', rfl, ih.mp hxs, (Except.ok.inj h).symm⟩
    · rintro ⟨y, ys', hx, hxs, rfl⟩
      rw [hx, ih.mpr hxs]
      rfl

/-- A list comes to a fault exactly when an element does and those before it come to results. -/
theorem mapM_eq_error_iff {xs : List α} {fault : ε} :
    xs.mapM f = .error fault
      ↔ ∃ before x after, xs = before ++ x :: after ∧ (∀ y ∈ before, ∃ z, f y = .ok z)
        ∧ f x = .error fault := by
  induction xs with
  | nil =>
    constructor
    · intro h
      cases h
    · rintro ⟨before, x, after, hxs, -⟩
      cases before <;> cases hxs
  | cons x xs ih =>
    rw [List.mapM_cons]
    constructor
    · intro h
      rcases hx : f x with fault' | y
      · rw [hx] at h
        cases h
        exact ⟨[], x, xs, rfl, fun y hy => absurd hy List.not_mem_nil, hx⟩
      · rcases hxs : xs.mapM f with fault' | ys
        · rw [hx, hxs] at h
          cases h
          obtain ⟨before, x', after, rfl, hbefore, hx'⟩ := ih.mp hxs
          exact ⟨x :: before, x', after, rfl, List.forall_mem_cons.mpr ⟨⟨y, hx⟩, hbefore⟩, hx'⟩
        · rw [hx, hxs] at h
          cases h
    · rintro ⟨before, x', after, hxs, hbefore, hx'⟩
      rcases before with - | ⟨x'', before⟩
      · cases hxs
        rw [hx']
        rfl
      · cases hxs
        obtain ⟨⟨y, hx⟩, hrest⟩ := List.forall_mem_cons.mp hbefore
        rw [hx, ih.mpr ⟨before, x', after, rfl, hrest, hx'⟩]
        rfl

/-- A list all of whose elements come to results comes to a list of them. -/
theorem exists_mapM_eq_ok {xs : List α} (h : ∀ x ∈ xs, ∃ y, f x = .ok y) :
    ∃ ys, xs.mapM f = .ok ys := by
  induction xs with
  | nil => exact ⟨[], rfl⟩
  | cons x xs ih =>
    obtain ⟨⟨y, hy⟩, hrest⟩ := List.forall_mem_cons.mp h
    obtain ⟨ys, hys⟩ := ih hrest
    exact ⟨y :: ys, mapM_eq_ok_iff.mpr (.cons hy (mapM_eq_ok_iff.mp hys))⟩

/-- All elements of a list that comes to results come to results. -/
theorem exists_of_mapM_eq_ok {xs : List α} {ys : List β} (h : xs.mapM f = .ok ys) :
    ∀ x ∈ xs, ∃ y, f x = .ok y := by
  have hall := mapM_eq_ok_iff.mp h
  clear h
  induction hall with
  | nil => exact fun x hx => absurd hx List.not_mem_nil
  | cons hx _ ih => exact List.forall_mem_cons.mpr ⟨⟨_, hx⟩, ih⟩

/-- Each result is that of some element. -/
theorem exists_of_mem_results {xs : List α} {ys : List β} {y : β} (h : xs.mapM f = .ok ys)
    (hy : y ∈ ys) : ∃ x ∈ xs, f x = .ok y := by
  have hall := mapM_eq_ok_iff.mp h
  clear h
  induction hall with
  | nil => cases hy
  | cons hx _ ih =>
    rcases List.mem_cons.mp hy with rfl | hy
    · exact ⟨_, List.mem_cons_self, hx⟩
    · obtain ⟨x, hmem, hx'⟩ := ih hy
      exact ⟨x, List.mem_cons_of_mem _ hmem, hx'⟩

end Results

/-! ### Registers -/

/-- A lookup ends in the table, whatever the name. -/
theorem RegisterLookup.isId_id (name : Option String) : Register.IsId (ofSpelling name).id := by
  have habsent : Register.IsId Register.absentId := ⟨Int.le_refl 0, by decide +kernel⟩
  unfold ofSpelling
  split
  · exact habsent
  · simp only
    split
    · rename_i id hid
      have hlt : id < Register.table.length :=
        (List.findIdx?_eq_some_iff_findIdx_eq.mp hid).1
      exact ⟨Int.natCast_nonneg id, Int.ofNat_lt.mpr hlt⟩
    · exact habsent

/-! ### Operands -/

/-- The memory is addressed in a known way by registers of the table. -/
structure Memory.IsWellFormed (memory : Memory) : Prop where
  kind : memory.kind.IsKnown
  segment : Register.IsId memory.segment
  base : Register.IsId memory.base
  index : Register.IsId memory.index

namespace Memory

variable {memory : Memory}

theorem IsWellFormed.isId_of_mem_consulted (h : memory.IsWellFormed) :
    ∀ id ∈ memory.consulted, Register.IsId id := by
  intro id hid
  simp only [consulted, List.mem_cons] at hid
  rcases hid with rfl | rfl | hid
  · exact h.segment
  · exact h.base
  · split at hid
    · rw [List.mem_singleton.mp hid]
      exact h.index
    · cases hid

theorem fault_emission (h : memory.IsWellFormed) : memory.emission.fault = none :=
  fault_emission_eq_none_iff.mpr ⟨h.kind, h.isId_of_mem_consulted⟩

end Memory

/-- The operand is of a kind that can be rendered and has the payload of this kind. -/
inductive Operand.IsWellFormed : Operand → Prop where
  | register {id : Int} (h : Register.IsId id) : IsWellFormed (.ofRegister id)
  | memory {memory : Memory} (h : memory.IsWellFormed) : IsWellFormed (.ofMemory memory)
  | immediate (immediate : Immediate) : IsWellFormed (.ofImmediate immediate)

namespace Operand.IsWellFormed

variable {operand : Operand}

theorem fault_emission (h : operand.IsWellFormed) (address : Int) :
    (operand.emission address).fault = none := by
  cases h with
  | register h => exact Register.fault_emission h
  | memory h => exact Memory.fault_emission h
  | immediate immediate => exact immediate.fault_emission address

/-- The operands in memory are those that address memory. -/
theorem addressesMemory_iff (h : operand.IsWellFormed) :
    operand.addressesMemory = true ↔ operand.kind = .memory := by
  cases h <;> simp [addressesMemory, ofRegister, ofMemory, ofImmediate]

end Operand.IsWellFormed

/-! ### Rendering -/

/-- A sink refuses ASCII pieces for want of room only. -/
theorem Sink.write_refuses_for_room {pieces : List String} {sink : Sink} {refusal : Refusal}
    (hascii : ∀ piece ∈ pieces, IsAscii piece) (h : (sink.write pieces).2 = some refusal) :
    ∃ requested remaining, refusal = .noRoom requested remaining := by
  induction pieces generalizing sink with
  | nil => cases h
  | cons piece pieces ih =>
    rw [List.forall_mem_cons] at hascii
    -- The first piece that is refused ends the writing; a piece with a character beyond ASCII would
    -- be refused for that.
    rcases hpiece : sink.append piece with refusal' | next
    · simp only [write, hpiece, Option.some.injEq] at h
      subst h
      exact ⟨_, _, ((append_eq_error_iff hascii.1).mp hpiece).2⟩
    · simp only [write, hpiece] at h
      exact ih hascii.2 h

namespace Operand

variable {operand : Operand}

/-- Nothing but the room of a sink stops the writing of a well formed operand. -/
theorem IsWellFormed.halts_for_room (h : operand.IsWellFormed) (address : Int) {sink : Sink}
    {halt : Halt OperandFault} (hhalt : ((operand.write address).into sink).2 = some halt) :
    ∃ requested remaining, halt = .refused (.noRoom requested remaining) := by
  rw [operand.writes_write address sink, Sink.emit, h.fault_emission address] at hhalt
  -- With no fault of its own the operand is halted by the sink, if by anything.
  rcases hwrite : sink.write (operand.emission address).pieces with ⟨final, - | refusal⟩
  · rw [hwrite] at hhalt
    cases hhalt
  · rw [hwrite] at hhalt
    cases hhalt
    obtain ⟨requested, remaining, hroom⟩ := Sink.write_refuses_for_room
      (operand.hasAsciiPieces_emission address) (congrArg Prod.snd hwrite)
    exact ⟨requested, remaining, congrArg Halt.refused hroom⟩

end Operand

/-! ### Records -/

/-- How the instruction addresses memory. -/
def RawInstruction.memoryKind (raw : RawInstruction) : MemoryKind :=
  .ofMnemonic (.ofSpelling raw.mnemonic)

/-- The place in memory that decoding makes of what the disassembler reports. -/
def RawInstruction.memory (raw : RawInstruction) (segment base index : Option String)
    (scale displacement : Int) : Memory where
  kind := raw.memoryKind
  segment := (RegisterLookup.ofSpelling segment).id
  base := (RegisterLookup.ofSpelling base).id
  index := (RegisterLookup.ofSpelling index).id
  scale := scale
  displacement := if displacement = 0 then none else some displacement

theorem RawInstruction.isWellFormed_memory (raw : RawInstruction)
    (segment base index : Option String) (scale displacement : Int) :
    (raw.memory segment base index scale displacement).IsWellFormed where
  kind := by
    simp only [memory, memoryKind, MemoryKind.ofMnemonic, MemoryKind.IsKnown]
    split <;> simp
  segment := RegisterLookup.isId_id segment
  base := RegisterLookup.isId_id base
  index := RegisterLookup.isId_id index

theorem RawInstruction.operand?_memory (raw : RawInstruction) (relative : Bool)
    (segment base index : Option String) (scale displacement : Int) :
    (RawOperand.memory segment base index scale displacement).operand? raw relative
      = .ok (.ofMemory (raw.memory segment base index scale displacement)) :=
  rfl

/-- Decoding an operand makes a well formed one, or none at all. -/
theorem RawOperand.isWellFormed_of_operand? {raw : RawInstruction} {relative : Bool}
    {source : RawOperand} {operand : Operand} (h : source.operand? raw relative = .ok operand) :
    operand.IsWellFormed := by
  cases source with
  | register name =>
    cases h
    exact .register (RegisterLookup.isId_id name)
  | immediate value =>
    cases relative <;> cases h <;> exact .immediate _
  | memory segment base index scale displacement =>
    rw [raw.operand?_memory] at h
    cases h
    exact .memory (raw.isWellFormed_memory segment base index scale displacement)
  | unsupported type => cases h

/-- All operands of the record are well formed, and its instruction counts them and shows all. -/
structure Record.IsConsistent (record : Record) : Prop where
  operands : ∀ operand ∈ record.operands, operand.IsWellFormed
  counted : record.instruction.operandCount = record.operands.length
  shown : record.instruction.visible = record.operands.length

namespace RawInstruction

variable {raw : RawInstruction} {record : Record}

/-- What decoding an instruction puts into its record. -/
theorem parts_of_record? (h : raw.record? = .ok record) :
    raw.operands? = .ok record.operands ∧ record.address = raw.address
    ∧ record.instruction
      = ⟨.ofSpelling raw.mnemonic, record.operands.length, none, raw.size⟩ := by
  rcases hoperands : raw.operands? with fault | operands
  · rw [record?, hoperands] at h
    cases h
  · rw [record?, hoperands] at h
    cases h
    exact ⟨rfl, rfl, rfl⟩

/-- The record of an instruction has its address, and its operands one by one. -/
theorem operands_of_record? (h : raw.record? = .ok record) :
    record.address = raw.address
    ∧ List.Forall₂ (fun source operand => source.operand? raw raw.isDirectBranch = .ok operand)
      raw.operands record.operands := by
  obtain ⟨hoperands, haddress, -⟩ := parts_of_record? h
  exact ⟨haddress, mapM_eq_ok_iff.mp hoperands⟩

/-- An instruction is decoded if all its operands have counterparts. -/
theorem exists_record? (h : raw.isSupported = true) : ∃ record, raw.record? = .ok record := by
  -- The only operands without counterparts are those of other types than the three.
  have hall : ∀ source ∈ raw.operands,
      ∃ operand, RawOperand.operand? raw raw.isDirectBranch source = .ok operand := by
    intro source hsource
    have hsupported := List.all_eq_true.mp h source hsource
    cases source with
    | register name => exact ⟨_, rfl⟩
    | immediate value => cases hbranch : raw.isDirectBranch <;> exact ⟨_, rfl⟩
    | memory segment base index scale displacement => exact ⟨_, rfl⟩
    | unsupported type => cases hsupported
  obtain ⟨operands, hoperands⟩ := exists_mapM_eq_ok hall
  rw [record?, operands?, hoperands]
  exact ⟨_, rfl⟩

theorem isConsistent_of_record? (h : raw.record? = .ok record) : record.IsConsistent := by
  obtain ⟨hoperands, -, hinstruction⟩ := parts_of_record? h
  refine ⟨?_, by rw [hinstruction], by rw [hinstruction]; rfl⟩
  intro operand hoperand
  obtain ⟨source, -, hsource⟩ := exists_of_mem_results hoperands hoperand
  exact RawOperand.isWellFormed_of_operand? hsource

end RawInstruction

/-- All records of a stream are consistent. -/
theorem Disassembler.isConsistent_of_mem_decode {disassembler : Disassembler} {code : List UInt8}
    {address count : Int} {records : List Record} {record : Record}
    (h : disassembler.decode code address count = .ok records) (hrecord : record ∈ records) :
    record.IsConsistent := by
  rw [decode] at h
  split at h
  · cases h
    cases hrecord
  · rw [decodeStream] at h
    split at h
    · cases h
    · rename_i records' hrecords
      split at h
      · cases h
      · cases h
        -- Every record comes from one instruction, and what holds of it does not depend on the
        -- others.
        obtain ⟨raw, -, hraw⟩ := exists_of_mem_results hrecords hrecord
        exact RawInstruction.isConsistent_of_record? hraw

end X86Gloss
