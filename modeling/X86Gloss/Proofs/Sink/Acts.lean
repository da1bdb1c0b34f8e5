/-
X86Gloss/Proofs/Sink/Acts.lean

What can be done with a sink, in any order and any number of times. An act writes a text, a number
or an operand, and may halt half way, or it copies what is written to some target. Acts are
performed one after the other, also after one that halted, with a tally of the texts that the sink
took.

Two things are invariant. What the sink holds are exactly the texts that it took (`Sink.Holds`), and
nothing but the cursor and the bytes inside the capacity has changed (`Sink.Within`). Every act
keeps them (`Tally.Intact.perform`), and so does any number of acts (`Tally.Intact.performAll`).
-/
import X86Gloss.Proofs.Sink.Contents
import X86Gloss.Proofs.Statement.Writing

namespace X86Gloss

open Writing

/-! ### Bytes beyond the capacity -/

namespace Sink

/-- The second sink is the first one later on: it has the same capacity, and its buffer has the same
length and the same bytes from the capacity on. -/
structure Within (sink next : Sink) : Prop where
  capacity_eq : next.capacity = sink.capacity
  length_eq : next.buffer.length = sink.buffer.length
  beyond : ∀ index, sink.capacity ≤ index → next.buffer[index]? = sink.buffer[index]?

variable {sink next last : Sink}

theorem Within.refl (sink : Sink) : sink.Within sink := ⟨rfl, rfl, fun _ _ => rfl⟩

theorem Within.trans (h : sink.Within next) (h' : next.Within last) : sink.Within last where
  capacity_eq := h'.capacity_eq.trans h.capacity_eq
  length_eq := h'.length_eq.trans h.length_eq
  beyond := by
    intro index hindex
    rw [h'.beyond index (h.capacity_eq ▸ hindex), h.beyond index hindex]

/-- One more text stays within the capacity, because the cursor behind it does. -/
theorem Extends.within {text : String} (h : sink.Extends text next) : sink.Within next where
  capacity_eq := h.capacity_eq
  length_eq := h.length_eq
  beyond := by
    intro index hindex
    have hposition := next.position_lt
    rw [h.capacity_eq] at hposition
    exact h.behind index (Nat.lt_of_lt_of_le hposition hindex)

/-- Whatever the pieces are and wherever they are cut off, they stay within the capacity. -/
theorem within_write (sink : Sink) (pieces : List String) : sink.Within (sink.write pieces).1 := by
  induction pieces generalizing sink with
  | nil => exact .refl sink
  | cons piece pieces ih =>
    rw [write]
    rcases happend : sink.append piece with refusal | next
    · exact .refl sink
    · exact (append_eq_ok_iff.mp happend).2.within.trans (ih next)

end Sink

/-! ### Acts -/

/-- What can be done with a sink. -/
inductive Act where
  /-- A text is appended. -/
  | append (text : String)
  | writeUnsigned (value : Int)
  | writeSigned (value : Int)
  | writeHex (value : Int)
  /-- An operand of an instruction at an address is written. -/
  | render (address : Int) (operand : Operand)
  /-- What is written is copied to another buffer. -/
  | deliver (target : List UInt8)

namespace Act

/-- The act as a writing; a copy writes nothing. -/
def writing : Act → Writing OperandFault Unit
  | .append text => put text
  | .writeUnsigned value => Numeral.writeUnsigned value
  | .writeSigned value => Numeral.writeSigned value
  | .writeHex value => put (Numeral.hex value)
  | .render address operand => operand.write address
  | .deliver _ => pure ()

/-- The texts that the act appends one by one, and the fault behind them. -/
def emission : Act → Emission OperandFault
  | .append text => .piece text
  | .writeUnsigned value => .piece (Numeral.unsigned value)
  | .writeSigned value => .ofPieces (Numeral.signedPieces value)
  | .writeHex value => .piece (Numeral.hex value)
  | .render address operand => operand.emission address
  | .deliver _ => .empty

theorem writes_writing (act : Act) : Writes act.writing act.emission := by
  cases act with
  | append text => exact writes_put text
  | writeUnsigned value => exact writes_put _
  | writeSigned value => exact Numeral.writes_writeSigned value
  | writeHex value => exact writes_put _
  | render address operand => exact operand.writes_write address
  | deliver target => exact writes_pure

/-- An act leaves the sink where its texts, one by one, leave it. -/
theorem into_writing (act : Act) (sink : Sink) :
    (act.writing.into sink).1 = (sink.write act.emission.pieces).1 := by
  rw [act.writes_writing sink, Sink.emit]
  rcases sink.write act.emission.pieces with ⟨final, - | refusal⟩ <;> rfl

theorem within_into (act : Act) (sink : Sink) : sink.Within (act.writing.into sink).1 := by
  rw [act.into_writing]
  exact sink.within_write _

end Act

/-! ### Acts in order -/

/-- A sink, and the texts that it took since it was opened. -/
structure Tally where
  sink : Sink
  taken : List String

namespace Tally

/-- A new sink has taken nothing. -/
def start (buffer : List UInt8) (capacity : Capacity buffer.length) : Tally :=
  ⟨Sink.start buffer capacity, []⟩

/-- Performs an act; whether it halts makes no difference to what comes next. -/
def perform (tally : Tally) (act : Act) : Tally where
  sink := (act.writing.into tally.sink).1
  taken := tally.taken ++ tally.sink.taken act.emission.pieces

/-- Performs acts in order. -/
def performAll (tally : Tally) (acts : List Act) : Tally := acts.foldl perform tally

/-- What every act keeps: the sink holds the texts that it took, within its capacity. -/
structure Intact (opened : Sink) (tally : Tally) : Prop where
  holds : tally.sink.Holds (String.join tally.taken)
  within : opened.Within tally.sink

variable {opened : Sink} {tally : Tally}

theorem intact_start (buffer : List UInt8) (capacity : Capacity buffer.length) :
    (start buffer capacity).Intact (Sink.start buffer capacity) where
  holds := Sink.holds_start buffer capacity
  within := .refl _

/-- One act, halted or not, keeps the sink intact. -/
theorem Intact.perform (h : tally.Intact opened) (act : Act) :
    (tally.perform act).Intact opened where
  holds := by
    rw [Tally.perform, act.into_writing, String.join_append]
    exact (h.holds.write act.emission.pieces).1
  within := h.within.trans (act.within_into tally.sink)

/-- So does any number of them. -/
theorem Intact.performAll (h : tally.Intact opened) (acts : List Act) :
    (tally.performAll acts).Intact opened := by
  induction acts generalizing tally with
  | nil => exact h
  | cons act acts ih => exact ih (h.perform act)

/-! ### What is seen of an intact sink -/

/-- What can be seen of a sink that was opened on the buffer with the capacity, whatever has been
done with it since. -/
structure Bounded (buffer : List UInt8) (capacity : Nat) (tally : Tally) : Prop where
  capacity_eq : tally.sink.capacity = capacity
  position_add_remaining : tally.sink.position + tally.sink.remaining = capacity - 1
  length_eq : tally.sink.buffer.length = buffer.length
  beyond : ∀ index, capacity ≤ index → tally.sink.buffer[index]? = buffer[index]?
  closed : tally.sink.buffer[tally.sink.position]? = some 0
  /-- The text is made of the texts that were taken. -/
  text?_eq : tally.sink.text? = some (String.join tally.taken)
  /-- Any text that is not ASCII is refused for that, however long it is. -/
  append_notAscii : ∀ text, ¬ IsAscii text →
    (put text : Writing OperandFault Unit).into tally.sink
      = (tally.sink, some (.refused .notAscii))
  /-- An ASCII text is refused if it is longer than what remains. -/
  append_noRoom : ∀ text, IsAscii text → tally.sink.remaining < text.length →
    (put text : Writing OperandFault Unit).into tally.sink
      = (tally.sink, some (.refused (.noRoom text.length tally.sink.remaining)))
  /-- Any other text is taken. -/
  append_taken : ∀ text, IsAscii text → text.length ≤ tally.sink.remaining →
    (tally.perform (.append text)).taken = tally.taken ++ [text]
  /-- A copy changes nothing but its target, which begins with the text and a zero byte then. -/
  deliver : ∀ target, tally.perform (.deliver target) = tally
    ∧ tally.sink.deliverTo target
      = bytesOf (String.join tally.taken) ++ 0 :: target.drop (tally.sink.position + 1)
    ∧ (tally.sink.deliverTo target).length = max target.length (tally.sink.position + 1)

theorem Intact.bounded {buffer : List UInt8} {capacity : Capacity buffer.length}
    (h : tally.Intact (Sink.start buffer capacity)) : tally.Bounded buffer capacity.1 := by
  obtain ⟨hholds, hcapacity, hlength, hbeyond⟩ := h
  have haccounted := tally.sink.accounted
  refine
    { capacity_eq := hcapacity, position_add_remaining := ?_, length_eq := ?_, beyond := ?_
      closed := hholds.closed, text?_eq := ?_, append_notAscii := ?_, append_noRoom := ?_
      append_taken := ?_, deliver := ?_ }
  · rw [← show tally.sink.capacity = capacity.1 from hcapacity]
    omega
  · rw [hlength]
    exact List.length_set
  · intro index hindex
    -- Opening the sink has set the first byte, which is within the capacity.
    rw [hbeyond index hindex]
    exact List.getElem?_set_ne (Nat.ne_of_lt (Nat.lt_of_lt_of_le capacity.2.1 hindex))
  · rw [Sink.text?, hholds.written, asciiText?_bytesOf hholds.ascii]
  · intro text hascii
    simp only [into, run_put, Sink.append_notAscii _ hascii]
  · intro text hascii hroom
    rw [hholds.remaining_eq] at hroom
    simp only [into, run_put, hholds.append_noRoom hascii (by omega), hholds.remaining_eq]
  · intro text hascii hroom
    rw [hholds.remaining_eq] at hroom
    have hlt := hholds.length_lt
    obtain ⟨next, happend, -⟩ := hholds.append_fits hascii (by omega)
    simp only [Tally.perform, Act.emission, Emission.piece, Sink.taken, happend]
  · intro target
    have hdelivered := hholds.deliverTo target
    rw [stamp, ← hholds.position_eq] at hdelivered
    refine ⟨?_, hdelivered, ?_⟩
    · simp only [Tally.perform, Act.emission, Emission.empty, Sink.taken, List.append_nil]
      rfl
    · rw [hdelivered, List.length_append, length_bytesOf, ← hholds.position_eq, List.length_cons,
        List.length_drop]
      omega

end Tally

end X86Gloss
