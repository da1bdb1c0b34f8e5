/-
X86Gloss/Proofs/Sink/Desk.lean

Several sinks over one buffer. A `Desk` is a buffer with the cursors of all sinks that were opened
over it; besides the acts of the sinks, its bytes may be poked and further sinks opened. A sink
finds bytes in the buffer then that it did not write, so what it holds is no longer known. Its
cursor is still inside its capacity and that inside the buffer, which is all that an act needs to
stay within the capacity (`Act.within_into`). So pokes alone account for the bytes beyond the
capacities (`Desk.Beyond.stepAll`).

`stays_bounded` states this together with what a sink keeps that is the only writer.
-/
import X86Gloss.Proofs.Sink.Acts

namespace X86Gloss

/-! ### Several sinks over a buffer -/

/-- How far a sink has got. -/
structure Cursor where
  capacity : Nat
  position : Nat
  remaining : Nat

/-- A buffer with the cursors of the sinks over it, in the order in which they were opened. -/
structure Desk where
  buffer : List UInt8
  cursors : List Cursor
  usable : ∀ cursor ∈ cursors,
    cursor.position + cursor.remaining + 1 = cursor.capacity ∧ cursor.capacity ≤ buffer.length

/-- What happens on a desk. -/
inductive Deed where
  /-- The sink with the index acts. -/
  | act (index : Nat) (act : Act)
  /-- A byte of the buffer is set, past every sink. -/
  | poke (index : Nat) (byte : UInt8)
  /-- A sink is opened, if the capacity is one. -/
  | openSink (capacity : Option Int)

namespace Desk

/-- A buffer over which no sink was opened yet. -/
def bare (buffer : List UInt8) : Desk := ⟨buffer, [], nofun⟩

/-- The capacities of all sinks that were opened. -/
def capacities (desk : Desk) : List Nat := desk.cursors.map Cursor.capacity

/-- The sink of a cursor. -/
def sink (desk : Desk) (cursor : Cursor) (h : cursor ∈ desk.cursors) : Sink where
  buffer := desk.buffer
  capacity := cursor.capacity
  position := cursor.position
  remaining := cursor.remaining
  accounted := (desk.usable cursor h).1
  capacity_le := (desk.usable cursor h).2

/-- The buffer and the cursor as a sink leaves them that was at some place on the desk. -/
def put (desk : Desk) (index : Nat) (next : Sink)
    (hlength : next.buffer.length = desk.buffer.length) : Desk where
  buffer := next.buffer
  cursors := desk.cursors.set index ⟨next.capacity, next.position, next.remaining⟩
  usable := by
    intro cursor hmem
    rcases List.mem_or_eq_of_mem_set hmem with hold | rfl
    · rw [hlength]
      exact desk.usable cursor hold
    · exact ⟨next.accounted, next.capacity_le⟩

/-- A sink keeps its capacity, and so the desk does. -/
theorem capacities_put (desk : Desk) {index : Nat} {next : Sink} (h : index < desk.cursors.length)
    (hlength : next.buffer.length = desk.buffer.length)
    (hcapacity : next.capacity = desk.cursors[index].capacity) :
    (desk.put index next hlength).capacities = desk.capacities := by
  simp only [capacities, put, List.map_set, hcapacity]
  rw [← List.getElem_map Cursor.capacity (h := by simpa using h), List.set_getElem_self]

/-- A sink acts on the buffer as it is. -/
def act (desk : Desk) (index : Nat) (act : Act) : Desk :=
  if h : index < desk.cursors.length then
    let sink := desk.sink desk.cursors[index] (List.getElem_mem h)
    desk.put index (act.writing.into sink).1 (act.within_into sink).length_eq
  else desk

/-- A byte is set. -/
def poke (desk : Desk) (index : Nat) (byte : UInt8) : Desk where
  buffer := desk.buffer.set index byte
  cursors := desk.cursors
  usable := by simpa using desk.usable

/-- A sink is opened with a capacity that was checked. -/
def openSink (desk : Desk) (capacity : Capacity desk.buffer.length) : Desk where
  buffer := (Sink.start desk.buffer capacity).buffer
  cursors := desk.cursors ++ [⟨capacity.1, 0, capacity.1 - 1⟩]
  usable := by
    have hlength : (Sink.start desk.buffer capacity).buffer.length = desk.buffer.length :=
      List.length_set
    intro cursor hmem
    rw [hlength]
    rcases List.mem_append.mp hmem with hold | hnew
    · exact desk.usable cursor hold
    · rw [List.mem_singleton.mp hnew]
      exact ⟨(Sink.start desk.buffer capacity).accounted, capacity.2.2⟩

/-- One deed. A sink that does not exist does nothing, and one with a bad capacity is not opened
(see `Sink.ofBuffer`). -/
def step (desk : Desk) : Deed → Desk
  | .act index act => desk.act index act
  | .poke index byte => desk.poke index byte
  | .openSink capacity =>
    match Capacity.of desk.buffer.length capacity with
    | .ok capacity => desk.openSink capacity
    | .error _ => desk

/-- Deeds in order. -/
def stepAll (desk : Desk) (deeds : List Deed) : Desk := deeds.foldl step desk

end Desk

/-! ### Pokes alone -/

/-- The buffer after the deed, if nobody but pokes changed it. -/
def Deed.poked (buffer : List UInt8) : Deed → List UInt8
  | .poke index byte => buffer.set index byte
  | .act .. | .openSink _ => buffer

/-- The buffer after deeds, if nobody but pokes changed it. -/
def pokedAll (buffer : List UInt8) (deeds : List Deed) : List UInt8 :=
  deeds.foldl Deed.poked buffer

/-- The buffer of the desk is as long as the other one, and from all capacities on it is equal. -/
structure Desk.Beyond (plain : List UInt8) (desk : Desk) : Prop where
  length_eq : desk.buffer.length = plain.length
  beyond : ∀ index, (∀ capacity ∈ desk.capacities, capacity ≤ index) →
    desk.buffer[index]? = plain[index]?

namespace Desk.Beyond

variable {plain : List UInt8} {desk : Desk}

/-- An act leaves all capacities as they are and stays within its own. -/
theorem act (h : desk.Beyond plain) (index : Nat) (act : Act) :
    (desk.act index act).Beyond plain := by
  unfold Desk.act
  split
  next hindex =>
    have hwithin := act.within_into (desk.sink desk.cursors[index] (List.getElem_mem hindex))
    have hcapacities := desk.capacities_put hindex hwithin.length_eq hwithin.capacity_eq
    refine ⟨hwithin.length_eq.trans h.length_eq, ?_⟩
    intro place hplace
    rw [hcapacities] at hplace
    have hown : desk.cursors[index].capacity ≤ place :=
      hplace _ (List.mem_map_of_mem (List.getElem_mem hindex))
    exact (hwithin.beyond place hown).trans (h.beyond place hplace)
  next => exact h

theorem poke (h : desk.Beyond plain) (index : Nat) (byte : UInt8) :
    (desk.poke index byte).Beyond (plain.set index byte) where
  length_eq := by simpa [Desk.poke] using h.length_eq
  beyond := by
    intro place hplace
    simp only [Desk.poke, List.getElem?_set, h.length_eq, h.beyond place hplace]

/-- Opening a sink sets the first byte, which is within its capacity. -/
theorem openSink (h : desk.Beyond plain) (capacity : Capacity desk.buffer.length) :
    (desk.openSink capacity).Beyond plain where
  length_eq := by simpa [Desk.openSink, Sink.start] using h.length_eq
  beyond := by
    intro place hplace
    rw [capacities, Desk.openSink, List.map_append] at hplace
    have hold := h.beyond place fun other hmem => hplace other (List.mem_append_left _ hmem)
    have hnew := hplace capacity.1 (List.mem_append_right _ List.mem_cons_self)
    have hfirst : 0 ≠ place := Nat.ne_of_lt (Nat.lt_of_lt_of_le capacity.2.1 hnew)
    rw [← hold]
    exact List.getElem?_set_ne hfirst

theorem step (h : desk.Beyond plain) (deed : Deed) :
    (desk.step deed).Beyond (deed.poked plain) := by
  cases deed with
  | act index act => exact h.act index act
  | poke index byte => exact h.poke index byte
  | openSink capacity =>
    simp only [Desk.step, Deed.poked]
    split
    · exact h.openSink _
    · exact h

/-- Beyond all capacities, deeds do what their pokes do. -/
theorem stepAll (h : desk.Beyond plain) (deeds : List Deed) :
    (desk.stepAll deeds).Beyond (pokedAll plain deeds) := by
  induction deeds generalizing desk plain with
  | nil => exact h
  | cons deed deeds ih => exact ih (h.step deed)

end Desk.Beyond

/-- Pokes do not change the length of a buffer. -/
theorem length_pokedAll (buffer : List UInt8) (deeds : List Deed) :
    (pokedAll buffer deeds).length = buffer.length := by
  induction deeds generalizing buffer with
  | nil => rfl
  | cons deed deeds ih =>
    rw [pokedAll, List.foldl_cons]
    refine (ih _).trans ?_
    cases deed with
    | poke index byte => exact List.length_set
    | act | openSink => rfl

/-! ### Bounded sinks -/

/-- **A sink stays bounded.**  Whatever is done with a sink that is the only writer to its buffer,
its cursor, its bytes and its text are those of the texts that it took. Whatever is done with any
number of sinks over one buffer and to its bytes, the length of the buffer is kept, and bytes from
the largest capacity on are changed by pokes alone. -/
theorem stays_bounded :
    (∀ (buffer : List UInt8) (capacity : Capacity buffer.length) (acts : List Act),
      ((Tally.start buffer capacity).performAll acts).Bounded buffer capacity.1)
    ∧ ∀ (buffer : List UInt8) (deeds : List Deed),
      ((Desk.bare buffer).stepAll deeds).buffer.length = buffer.length
      ∧ ∀ index, (∀ capacity ∈ ((Desk.bare buffer).stepAll deeds).capacities, capacity ≤ index) →
        ((Desk.bare buffer).stepAll deeds).buffer[index]? = (pokedAll buffer deeds)[index]? := by
  refine ⟨?_, ?_⟩
  · intro buffer capacity acts
    exact ((Tally.intact_start buffer capacity).performAll acts).bounded
  · intro buffer deeds
    have hbare : (Desk.bare buffer).Beyond buffer := ⟨rfl, fun _ _ => rfl⟩
    obtain ⟨hlength, hbeyond⟩ := hbare.stepAll deeds
    exact ⟨hlength.trans (length_pokedAll buffer deeds), hbeyond⟩

/-- A number of which the sign fits, a text that is not ASCII and one that fits: sign and text are
taken. And a byte that is poked behind two sinks stays. -/
theorem stays_bounded_sign :
    ((Tally.start (List.replicate 5 0xff) ⟨3, by decide⟩).performAll
        [.writeSigned (-12), .append "é", .append "a"]).sink.text? = some "-a"
      ∧ ((Desk.bare (List.replicate 5 0xff)).stepAll
          [.openSink (some 3), .poke 3 7, .act 0 (.append "ab"), .openSink (some 2)]).buffer[3]?
        = some 7 := by
  have htaken : ((Tally.start (List.replicate 5 0xff) ⟨3, by decide⟩).performAll
      [.writeSigned (-12), .append "é", .append "a"]).taken = ["-", "a"] := by decide +kernel
  have hcapacities : ((Desk.bare (List.replicate 5 0xff)).stepAll
      [.openSink (some 3), .poke 3 7, .act 0 (.append "ab"), .openSink (some 2)]).capacities
        = [3, 2] := by decide +kernel
  refine ⟨?_, ?_⟩
  · refine (stays_bounded.1 _ _ _).text?_eq.trans ?_
    exact congrArg (fun taken => some (String.join taken)) htaken
  · rw [(stays_bounded.2 _ _).2 3 (by rw [hcapacities]; decide)]
    rfl

end X86Gloss
