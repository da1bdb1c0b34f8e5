/-
X86Gloss/Proofs/Operand/Rendering.lean

What writing an operand comes to. Only the payload of its kind is looked at, and of a place in
memory only the registers that it shows: segment and base, and the index where it stands for the
displacement (`Memory.consulted`). If the table lists all of them, the text is put together from
their texts and the numbers (`Memory.text_emission`); if not, the first that it does not list is
the fault.

`Operand.Fails` names all faults, and `Operand.write_fails_iff` says that in a sink with room for
an operand exactly these are met. Otherwise the operand renders to its text
(`Operand.renders_iff`).
-/
import X86Gloss.Proofs.Gloss.Cut
import X86Gloss.Proofs.Operand.Length

namespace X86Gloss

open Emission

/-! ### Registers -/

namespace Register

/-- The identifier is one of the table. -/
def IsId (id : Int) : Prop := 0 ≤ id ∧ id < table.length

/-- Only the entry at the place of the identifier is found; none is counted from the end. -/
theorem ofId?_eq_some_iff {id : Int} {register : Register} :
    ofId? id = some register ↔ ∃ index : Nat, id = index ∧ table[index]? = some register := by
  unfold ofId?
  constructor
  · intro h
    split at h
    · rename_i hnonneg
      exact ⟨id.toNat, (Int.toNat_of_nonneg hnonneg).symm, h⟩
    · cases h
  · rintro ⟨index, rfl, hindex⟩
    rw [if_pos (Int.natCast_nonneg index), Int.toNat_natCast]
    exact hindex

theorem fault_emission {id : Int} (h : IsId id) : (emission id).fault = none := by
  obtain ⟨hnonneg, hbounded⟩ := h
  have hlt : id.toNat < table.length := by omega
  rw [emission, ofId?, if_pos hnonneg, List.getElem?_eq_getElem hlt]
  rfl

theorem fault_emission_of_not_isId {id : Int} (h : ¬ IsId id) :
    (emission id).fault = some (.register id) := by
  rcases hfound : ofId? id with - | register
  · rw [emission, hfound]
    rfl
  · obtain ⟨index, rfl, hindex⟩ := ofId?_eq_some_iff.mp hfound
    have hlt := (List.getElem?_eq_some_iff.mp hindex).1
    exact absurd ⟨Int.natCast_nonneg index, Int.ofNat_lt.mpr hlt⟩ h

theorem fault_emission_eq_none_iff {id : Int} : (emission id).fault = none ↔ IsId id := by
  constructor
  · intro h
    by_cases hid : IsId id
    · exact hid
    · rw [fault_emission_of_not_isId hid] at h
      cases h
  · exact fault_emission

end Register

/-! ### Kinds of memory -/

namespace MemoryKind

/-- The kind is one of the three that memory can be addressed in. -/
def IsKnown (kind : MemoryKind) : Prop :=
  kind = .direct ∨ kind = .indirectBase ∨ kind = .address

theorem isKnown_or_unknown (kind : MemoryKind) :
    kind.IsKnown ∨ ∃ spelling, kind = .unknown spelling := by
  cases kind with
  | direct => exact .inl (.inl rfl)
  | indirectBase => exact .inl (.inr (.inl rfl))
  | address => exact .inl (.inr (.inr rfl))
  | unknown spelling => exact .inr ⟨spelling, rfl⟩

/-- What stands before an operand in memory. -/
def opening (kind : MemoryKind) : String := if kind = .address then "(" else "*("

/-- What an operand in memory shows of its index when it has no displacement; `index` is the text
of the register with the identifier. -/
def indexText (kind : MemoryKind) (id : Int) (index : String) (scale : Int) : String :=
  if kind = .direct ∧ id ≠ Register.absentId then
    " + " ++ if scale = 1 then index else "(" ++ index ++ " * " ++ Numeral.unsigned scale ++ ")"
  else ""

end MemoryKind

/-! ### Places in memory -/

namespace Memory

/-- The index stands where there is no displacement, in direct memory only. -/
def ShowsIndex (memory : Memory) : Prop :=
  memory.kind = .direct ∧ memory.displacement = none ∧ memory.index ≠ Register.absentId

instance (memory : Memory) : Decidable memory.ShowsIndex :=
  inferInstanceAs (Decidable (_ ∧ _ ∧ _))

/-- The identifiers of the registers that the text shows, in order. -/
def consulted (memory : Memory) : List Int :=
  memory.segment :: memory.base :: if memory.ShowsIndex then [memory.index] else []

variable {memory : Memory}

theorem emission_ofMemory (memory : Memory) (address : Int) :
    (Operand.ofMemory memory).emission address = memory.emission := rfl

theorem emission_of_isKnown (h : memory.kind.IsKnown) :
    memory.emission = memory.enclosed memory.kind.opening := by
  unfold emission
  rcases h with hkind | hkind | hkind <;> rw [hkind] <;> rfl

theorem emission_of_unknown {spelling : Option String} (h : memory.kind = .unknown spelling) :
    memory.emission = fail (.unknownMemory spelling) := by
  rw [emission, h]

theorem offset_of_showsIndex (h : memory.ShowsIndex) :
    memory.offset = piece " + " ++ memory.scaledIndex := by
  obtain ⟨hkind, hdisplacement, hindex⟩ := h
  have hindexed : memory.isIndexed = true := decide_eq_true hindex
  simp only [offset, hdisplacement, hkind, hindexed, decide_true, Bool.and_self, if_true]

theorem offset_of_not_showsIndex (h : ¬ memory.ShowsIndex)
    (hdisplacement : memory.displacement = none) : memory.offset = empty := by
  have hhidden : (memory.kind = .direct && memory.isIndexed) = false := by
    rw [Bool.and_eq_false_iff, decide_eq_false_iff_not, isIndexed, decide_eq_false_iff_not]
    by_cases hkind : memory.kind = .direct
    · exact .inr fun hindex => h ⟨hkind, hdisplacement, hindex⟩
    · exact .inl hkind
  simp only [offset, hdisplacement, hhidden, Bool.false_eq_true, if_false]

/-! ### Their faults -/

theorem fault_scaledIndex :
    memory.scaledIndex.fault = (Register.emission memory.index).fault := by
  unfold scaledIndex
  split
  · rfl
  · simp

theorem fault_offset :
    memory.offset.fault
      = if memory.ShowsIndex then (Register.emission memory.index).fault else none := by
  split
  · rename_i hshown
    rw [offset_of_showsIndex hshown, fault_append, fault_piece, Option.none_or, fault_scaledIndex]
  · rename_i hhidden
    rcases hdisplacement : memory.displacement with - | displacement
    · rw [offset_of_not_showsIndex hhidden hdisplacement]
      rfl
    · simp only [offset, hdisplacement, fault_ofPieces]

/-- Whatever opens it, a place in memory has the fault of the first register that has one. -/
theorem fault_enclosed (opening : String) :
    (memory.enclosed opening).fault
      = memory.consulted.findSome? fun id => (Register.emission id).fault := by
  -- The fault of a row is that of its first member with one: segment, base and then the index.
  simp only [enclosed, fault_append, fault_piece, fault_offset, consulted, List.findSome?_cons]
  rcases (Register.emission memory.segment).fault with - | fault
  · rcases (Register.emission memory.base).fault with - | fault
    · by_cases hshown : memory.ShowsIndex
      · rcases hindex : (Register.emission memory.index).fault with - | fault <;>
          simp [hshown, hindex]
      · simp [hshown]
    · simp
  · simp

/-- The identifier is the first that is consulted without being in the table. -/
def FirstUnknown (memory : Memory) (id : Int) : Prop :=
  ∃ before after, memory.consulted = before ++ id :: after
    ∧ ¬ Register.IsId id ∧ ∀ other ∈ before, Register.IsId other

theorem fault_enclosed_eq_some_iff {opening : String} {fault : OperandFault} :
    (memory.enclosed opening).fault = some fault
      ↔ ∃ id, memory.FirstUnknown id ∧ fault = .register id := by
  rw [fault_enclosed, List.findSome?_eq_some_iff]
  constructor
  · -- From a fault: the search stops at an identifier with one, so that identifier is not listed;
    -- all before it have none, so they are.
    rintro ⟨before, id, after, hsplit, hfault, hbefore⟩
    have hid : ¬ Register.IsId id := by
      intro hid
      rw [Register.fault_emission hid] at hfault
      cases hfault
    rw [Register.fault_emission_of_not_isId hid, Option.some.injEq] at hfault
    exact ⟨id, ⟨before, after, hsplit, hid,
      fun other hother => Register.fault_emission_eq_none_iff.mp (hbefore other hother)⟩,
      hfault.symm⟩
  · rintro ⟨id, ⟨before, after, hsplit, hid, hbefore⟩, rfl⟩
    exact ⟨before, id, after, hsplit, Register.fault_emission_of_not_isId hid,
      fun other hother => Register.fault_emission (hbefore other hother)⟩

/-- A place in memory has a text if its kind is known and the table lists what it shows. -/
theorem fault_emission_eq_none_iff :
    memory.emission.fault = none
      ↔ memory.kind.IsKnown ∧ ∀ id ∈ memory.consulted, Register.IsId id := by
  have hknown : ∀ opening, (memory.enclosed opening).fault = none
      ↔ ∀ id ∈ memory.consulted, Register.IsId id := by
    intro opening
    simp only [fault_enclosed, List.findSome?_eq_none_iff, Register.fault_emission_eq_none_iff]
  unfold emission
  cases hkind : memory.kind with
  | direct | indirectBase | address => simp [hknown, MemoryKind.IsKnown]
  | unknown spelling => simp [MemoryKind.IsKnown]

/-! ### Their texts -/

theorem text_scaledIndex (h : Register.IsId memory.index) :
    memory.scaledIndex.text
      = if memory.scale = 1 then (Register.emission memory.index).text
        else "(" ++ (Register.emission memory.index).text ++ " * "
          ++ Numeral.unsigned memory.scale ++ ")" := by
  unfold scaledIndex
  split
  · rfl
  · rw [append_assoc, text_piece_append, text_append (Register.fault_emission h), text_ofPieces]
    simp [String.append_assoc]

theorem text_offset_of_some {displacement : Int} (h : memory.displacement = some displacement) :
    memory.offset.text = " + " ++ String.join (Numeral.signedPieces displacement) := by
  rw [offset, h]
  exact String.join_cons

theorem text_offset_of_none (hlisted : ∀ id ∈ memory.consulted, Register.IsId id)
    (h : memory.displacement = none) :
    memory.offset.text
      = memory.kind.indexText memory.index (Register.emission memory.index).text memory.scale := by
  rw [MemoryKind.indexText]
  by_cases hshown : memory.ShowsIndex
  · have hindex : Register.IsId memory.index :=
      hlisted _ (by simp [consulted, if_pos hshown])
    rw [if_pos ⟨hshown.1, hshown.2.2⟩, offset_of_showsIndex hshown, text_piece_append,
      text_scaledIndex hindex]
  · rw [if_neg fun hpair => hshown ⟨hpair.1, h, hpair.2⟩, offset_of_not_showsIndex hshown h,
      text_empty]

theorem text_emission (hknown : memory.kind.IsKnown)
    (hlisted : ∀ id ∈ memory.consulted, Register.IsId id) :
    memory.emission.text
      = memory.kind.opening ++ (Register.emission memory.segment).text ++ ": "
        ++ (Register.emission memory.base).text ++ memory.offset.text ++ ")" := by
  have hsegment : Register.IsId memory.segment := hlisted _ List.mem_cons_self
  have hbase : Register.IsId memory.base :=
    hlisted _ (List.mem_cons_of_mem _ List.mem_cons_self)
  have hoffset : memory.offset.fault = none := by
    rw [fault_offset]
    split
    · rename_i hshown
      exact Register.fault_emission (hlisted _ (by simp [consulted, if_pos hshown]))
    · rfl
  rw [emission_of_isKnown hknown]
  simp only [enclosed, append_assoc, text_piece_append, text_piece,
    text_append (Register.fault_emission hsegment), text_append (Register.fault_emission hbase),
    text_append hoffset, String.append_assoc]

end Memory

/-! ### Operands -/

theorem Immediate.fault_emission (address : Int) (immediate : Immediate) :
    (immediate.emission address).fault = none := by
  unfold emission
  split
  · rfl
  · split <;> rfl

namespace Operand

/-- Why an operand cannot be written. -/
inductive Fails : Operand → OperandFault → Prop
  /-- The table does not list the register. -/
  | register {operand : Operand} (hkind : operand.kind = .register)
      (hid : ¬ Register.IsId operand.register) :
    Fails operand (.register operand.register)
  /-- A place in memory is not given. -/
  | noMemory {operand : Operand} (hkind : operand.kind = .memory)
      (hnone : operand.memory = none) :
    Fails operand .noMemory
  /-- A place in memory is of none of the known kinds. -/
  | unknownMemory {operand : Operand} {memory : Memory} {spelling : Option String}
      (hkind : operand.kind = .memory) (hsome : operand.memory = some memory)
      (hunknown : memory.kind = .unknown spelling) :
    Fails operand (.unknownMemory spelling)
  /-- A place in memory shows a register that the table does not list. -/
  | consulted {operand : Operand} {memory : Memory} {id : Int}
      (hkind : operand.kind = .memory) (hsome : operand.memory = some memory)
      (hknown : memory.kind.IsKnown) (hfirst : memory.FirstUnknown id) :
    Fails operand (.register id)
  /-- A constant is not given. -/
  | noImmediate {operand : Operand} (hkind : operand.kind = .immediate)
      (hnone : operand.immediate = none) :
    Fails operand .noImmediate
  /-- A far pointer has no text. -/
  | farPointer {operand : Operand} (hkind : operand.kind = .pointer) :
    Fails operand .farPointer

/-- The operand with no payload but that of its kind. -/
def selected (operand : Operand) : Operand :=
  match operand.kind with
  | .register => .ofRegister operand.register
  | .memory => { kind := .memory, memory := operand.memory }
  | .immediate => { kind := .immediate, immediate := operand.immediate }
  | .pointer => { kind := .pointer }

/-- No other payload is looked at. -/
theorem write_selected (address : Int) (operand : Operand) :
    operand.selected.write address = operand.write address := by
  obtain ⟨kind, register, memory, immediate, pointer⟩ := operand
  cases kind with
  | register => rfl
  | memory => cases memory <;> rfl
  | immediate => cases immediate <;> rfl
  | pointer => rfl

/-- The faults of the text are those that the operand has by its parts. -/
theorem fault_emission_eq_some_iff {address : Int} {operand : Operand} {fault : OperandFault} :
    (operand.emission address).fault = some fault ↔ operand.Fails fault := by
  constructor
  · intro h
    -- The kind says which payload is read; each way it can go wrong is one constructor.
    rw [emission] at h
    cases hkind : operand.kind with
    | register =>
      simp only [hkind] at h
      by_cases hid : Register.IsId operand.register
      · rw [Register.fault_emission hid] at h
        cases h
      · rw [Register.fault_emission_of_not_isId hid] at h
        cases h
        exact .register hkind hid
    | memory =>
      rcases hmemory : operand.memory with - | memory
      · simp only [hkind, hmemory, Option.elim_none] at h
        cases h
        exact .noMemory hkind hmemory
      · simp only [hkind, hmemory, Option.elim_some] at h
        -- The kind of memory is looked at before any register, so an unknown kind hides them.
        rcases memory.kind.isKnown_or_unknown with hknown | ⟨spelling, hunknown⟩
        · rw [Memory.emission_of_isKnown hknown] at h
          obtain ⟨id, hfirst, rfl⟩ := Memory.fault_enclosed_eq_some_iff.mp h
          exact .consulted hkind hmemory hknown hfirst
        · rw [Memory.emission_of_unknown hunknown] at h
          cases h
          exact .unknownMemory hkind hmemory hunknown
    | immediate =>
      rcases himmediate : operand.immediate with - | immediate
      · simp only [hkind, himmediate, Option.elim_none] at h
        cases h
        exact .noImmediate hkind himmediate
      · simp only [hkind, himmediate, Option.elim_some, Immediate.fault_emission] at h
        cases h
    | pointer =>
      simp only [hkind] at h
      cases h
      exact .farPointer hkind
  · intro h
    rw [emission]
    cases h with
    | register hkind hid =>
      simp only [hkind]
      exact Register.fault_emission_of_not_isId hid
    | noMemory hkind hnone =>
      simp only [hkind, hnone]
      rfl
    | unknownMemory hkind hsome hunknown =>
      simp only [hkind, hsome, Option.elim_some, Memory.emission_of_unknown hunknown]
      rfl
    | consulted hkind hsome hknown hfirst =>
      simp only [hkind, hsome, Option.elim_some, Memory.emission_of_isKnown hknown]
      exact Memory.fault_enclosed_eq_some_iff.mpr ⟨_, hfirst, rfl⟩
    | noImmediate hkind hnone =>
      simp only [hkind, hnone]
      rfl
    | farPointer hkind =>
      simp only [hkind]
      rfl

/-! ### Writing -/

/-- With enough room the writing of the operand leaves the text in a new sink. -/
def Renders (operand : Operand) (address : Int) (text : String) : Prop :=
  ∀ (capacity : Nat) (h : 0 < capacity), text.length < capacity →
    ∃ final, (operand.write address).into (Sink.blank capacity h) = (final, none)
      ∧ final.text = text

theorem renders_emission {operand : Operand} (address : Int)
    (h : (operand.emission address).fault = none) :
    operand.Renders address (operand.emission address).text := by
  intro capacity hpositive hfits
  obtain ⟨final, hemit, hfinal⟩ := (Sink.holds_blank hpositive).emit_fits
    (operand.hasAsciiPieces_emission address) hfits
  rw [h] at hemit
  exact ⟨final, (operand.writes_write address _).trans hemit, hfinal.text_eq⟩

/-- An operand renders to its text, unless it has a fault. -/
theorem renders_iff {operand : Operand} {address : Int} {text : String} :
    operand.Renders address text
      ↔ (operand.emission address).fault = none ∧ text = (operand.emission address).text := by
  constructor
  · intro h
    -- Any room will do that takes both texts.
    have hpositive : 0 < text.length + (operand.emission address).text.length + 1 :=
      Nat.succ_pos _
    obtain ⟨final, hinto, htext⟩ := h _ hpositive (by omega)
    obtain ⟨final', hemit, hfinal⟩ := (Sink.holds_blank hpositive).emit_fits
      (operand.hasAsciiPieces_emission address)
      (show _ < text.length + (operand.emission address).text.length + 1 by omega)
    rw [operand.writes_write address, hemit] at hinto
    obtain ⟨rfl, hfault⟩ := Prod.mk.inj hinto
    exact ⟨Option.map_eq_none_iff.mp hfault, htext.symm.trans hfinal.text_eq⟩
  · rintro ⟨hfault, rfl⟩
    exact renders_emission address hfault

/-- A sink with room for an operand halts its writing for a fault only. -/
theorem halt_of_room (operand : Operand) (address : Int) {sink : Sink}
    (hroom : 96 ≤ sink.remaining) :
    ((operand.write address).into sink).2 = (operand.emission address).fault.map .fault := by
  have hlength : (String.join (operand.emission address).pieces).length ≤ sink.remaining :=
    Nat.le_trans (operand.length_emission_le address) hroom
  have hwrite := Sink.write_of_room (operand.hasAsciiPieces_emission address) hlength
  rw [operand.writes_write address sink, Sink.emit]
  rcases hresult : sink.write (operand.emission address).pieces with ⟨final, - | refusal⟩
  · rfl
  · rw [hresult] at hwrite
    cases hwrite

/-- **An operand fails exactly when a part that it shows is bad.**  In a sink with room for an
operand, whatever the sink holds, the writing halts for the faults that `Fails` names and for
nothing else. Such a fault is reported as an error of operands, and as one of registers exactly if
it is a register, which it names. What is written and why it halts depends on the payload of the
kind alone; and a register is only ever found at the place of its identifier. -/
theorem write_fails_iff (operand : Operand) (address : Int) (sink : Sink)
    (hroom : 96 ≤ sink.remaining) :
    (∀ halt, ((operand.write address).into sink).2 = some halt
      ↔ ∃ fault, halt = .fault fault ∧ operand.Fails fault)
    ∧ (∀ fault, operand.Fails fault →
      fault.problem.isOperand = true
      ∧ ((∃ id, fault = .register id ∧ fault.problem = .register id)
        ↔ fault.problem.label = "RegisterError"))
    ∧ (∀ other : Operand, other.selected = operand.selected →
      (other.write address).into sink = (operand.write address).into sink)
    ∧ ∀ id register, Register.ofId? id = some register
      ↔ ∃ index : Nat, id = index ∧ Register.table[index]? = some register := by
  refine ⟨?_, ?_, ?_, fun id register => Register.ofId?_eq_some_iff⟩
  · intro halt
    rw [operand.halt_of_room address hroom, Option.map_eq_some_iff]
    constructor
    · rintro ⟨fault, hfault, rfl⟩
      exact ⟨fault, rfl, fault_emission_eq_some_iff.mp hfault⟩
    · rintro ⟨fault, rfl, hfails⟩
      exact ⟨fault, fault_emission_eq_some_iff.mpr hfails, rfl⟩
  · intro fault hfails
    cases hfails with
    | register | consulted => exact ⟨rfl, fun _ => rfl, fun _ => ⟨_, rfl, rfl⟩⟩
    | noMemory | unknownMemory | noImmediate | farPointer =>
      refine ⟨rfl, nofun, fun hlabel => ?_⟩
      exact absurd (show "OperandError" = "RegisterError" from hlabel) (by decide)
  · intro other hsame
    rw [← write_selected, hsame, write_selected]

/-- The base is the first register that the table does not list. The index is not in it either, and
the operand has a payload of another kind, too. -/
theorem write_fails_base_below_zero :
    ((write 0 ⟨.memory, 7, some ⟨.direct, 0, -1, 1000, 2, none⟩, none, some ⟨0, 0⟩⟩).into
      (Sink.blank 97 (by decide))).2 = some (.fault (.register (-1))) := by
  have hroom : 96 ≤ (Sink.blank 97 (by decide)).remaining := by decide
  refine ((write_fails_iff _ 0 _ hroom).1 _).mpr ⟨_, rfl, .consulted rfl rfl (.inl rfl) ?_⟩
  refine ⟨[0], [1000], rfl, fun h => absurd h.1 (by decide), ?_⟩
  exact List.forall_mem_singleton.mpr ⟨Int.le_refl 0, by decide +kernel⟩

end Operand

end X86Gloss
