/-
X86Gloss/Sink.lean

A sink writes ASCII text into a buffer of fixed size. It uses the first `capacity` bytes of
the buffer and keeps the text up to `position` ended by a zero byte, so one byte of the
capacity is always spoken for. A text that does not fit, or is not ASCII, is refused as a
whole and changes nothing; texts that were taken before it stay.

The type accounts for the capacity, which is what is written, what remains and the zero byte, and
it keeps the capacity inside the buffer. `write` takes pieces until one is refused, and `emit` does
the same with an emission, whose own fault counts only when all its pieces found room.
-/
import X86Gloss.Emission
import X86Gloss.Diagnostic

namespace X86Gloss

/-! ### Bytes of a text -/

/-- The encoding of every buffer. -/
def encodingName : String := "ascii"

/-- One byte for each character, when every character is ASCII. -/
def asciiBytes? (text : String) : Option (List UInt8) :=
  if text.toList.all fun c => c.toNat < 0x80 then
    some (text.toList.map fun c => UInt8.ofNat c.toNat)
  else
    none

/-- One character for each byte. -/
def byteText (bytes : List UInt8) : String :=
  String.ofList (bytes.map fun byte => Char.ofNat byte.toNat)

/-- The text of bytes that are all ASCII. -/
def asciiText? (bytes : List UInt8) : Option String :=
  if bytes.all fun byte => byte.toNat < 0x80 then some (byteText bytes) else none

/-- The buffer with some of its bytes replaced, from a position on. -/
def overwrite (buffer : List UInt8) (position : Nat) (bytes : List UInt8) : List UInt8 :=
  buffer.take position ++ bytes ++ buffer.drop (position + bytes.length)

/-- Bytes that find room leave the size of the buffer as it is. -/
theorem length_overwrite {buffer bytes : List UInt8} {position : Nat}
    (h : position + bytes.length ≤ buffer.length) :
    (overwrite buffer position bytes).length = buffer.length := by
  simp only [overwrite, List.length_append, List.length_take, List.length_drop]
  omega

/-! ### Capacities -/

/-- The size of a buffer unless another is asked for. -/
def standardCapacity : Int := 256

/-- Why a buffer cannot be written to. -/
inductive BufferFault where
  /-- There is no buffer. -/
  | missing
  /-- The capacity is no positive number up to the size of the buffer. -/
  | badCapacity (size : Nat) (given : Int)
deriving DecidableEq

/-- What the fault is reported as. -/
def BufferFault.problem : BufferFault → Problem
  | .missing => .input "Output buffer is missing"
  | .badCapacity size given =>
    .input ("Buffer capacity must be between 1 and " ++ size.repr ++ ", got "
      ++ Numeral.decimal given)

/-- The numbers of bytes that a buffer of some size can be used with. -/
def Capacity (size : Nat) : Type := { capacity : Nat // 0 < capacity ∧ capacity ≤ size }

/-- A capacity that was asked for; the size of the buffer if none was. -/
def Capacity.of (size : Nat) (given : Option Int) : Except BufferFault (Capacity size) :=
  let wanted := given.getD size
  if h : 0 < wanted ∧ wanted ≤ size then .ok ⟨wanted.toNat, by omega⟩
  else .error (.badCapacity size wanted)

/-! ### Sinks -/

/-- A buffer with a cursor: how many bytes are written, and how many more can be. -/
structure Sink where
  buffer : List UInt8
  capacity : Nat
  position : Nat
  remaining : Nat
  /-- One byte of the capacity is for the closing zero. -/
  accounted : position + remaining + 1 = capacity
  capacity_le : capacity ≤ buffer.length

/-- Why a sink did not take a text. -/
inductive Refusal where
  /-- The text holds a character beyond ASCII. -/
  | notAscii
  /-- The text is longer than what is left. -/
  | noRoom (requested remaining : Nat)
deriving DecidableEq

/-- Why an emission stopped: a piece was refused, or the emission itself ended in a fault. -/
inductive Halt (ε : Type) where
  | refused (refusal : Refusal)
  | fault (fault : ε)
deriving DecidableEq

namespace Sink

/-- A sink over a buffer, with nothing written yet. -/
def start (buffer : List UInt8) (capacity : Capacity buffer.length) : Sink where
  buffer := buffer.set 0 0
  capacity := capacity.1
  position := 0
  remaining := capacity.1 - 1
  accounted := by
    have := capacity.2.1
    omega
  capacity_le := by simpa using capacity.2.2

/-- A sink over a buffer that may be missing, with a capacity that may be out of bounds. -/
def ofBuffer (buffer : Option (List UInt8)) (capacity : Option Int) : Except BufferFault Sink :=
  match buffer with
  | none => .error .missing
  | some buffer => (Capacity.of buffer.length capacity).map (start buffer)

/-- A sink over a new buffer of zeros, all of which it may use. -/
def blank (capacity : Nat) (h : 0 < capacity) : Sink :=
  start (List.replicate capacity 0) ⟨capacity, by simpa using h⟩

/-- The cursor is inside the capacity. -/
theorem position_lt (sink : Sink) : sink.position < sink.capacity := by
  have := sink.accounted
  omega

/-- The bytes written so far, read from the buffer. -/
def written (sink : Sink) : List UInt8 := sink.buffer.take sink.position

/-- The text written so far. -/
def text (sink : Sink) : String := byteText sink.written

/-- The text written so far, unless someone else put a byte into it that is not ASCII. -/
def text? (sink : Sink) : Option String := asciiText? sink.written

/-- The sink in words. -/
def description (sink : Sink) : String :=
  "BoundedTextSink(capacity=" ++ sink.capacity.repr ++ ", position=" ++ sink.position.repr
    ++ ", remaining=" ++ sink.remaining.repr ++ ")"

/-- Bytes that find room, followed by the closing zero. -/
def push (sink : Sink) (bytes : List UInt8) (h : bytes.length ≤ sink.remaining) : Sink where
  buffer := overwrite sink.buffer sink.position (bytes ++ [0])
  capacity := sink.capacity
  position := sink.position + bytes.length
  remaining := sink.remaining - bytes.length
  accounted := by
    have := sink.accounted
    omega
  capacity_le := by
    have := sink.accounted
    have := sink.capacity_le
    rw [length_overwrite]
    · exact sink.capacity_le
    · simp only [List.length_append, List.length_singleton]
      omega

/-- Bytes that find room leave the size of the buffer as it is. -/
@[simp] theorem length_buffer_push (sink : Sink) (bytes : List UInt8)
    (h : bytes.length ≤ sink.remaining) :
    (sink.push bytes h).buffer.length = sink.buffer.length := by
  have hcapacity := sink.accounted
  have hbuffer := sink.capacity_le
  apply length_overwrite
  simp only [List.length_append, List.length_singleton]
  omega

/-- Bytes that find room come after what was written before. -/
@[simp] theorem written_push (sink : Sink) (bytes : List UInt8)
    (h : bytes.length ≤ sink.remaining) :
    (sink.push bytes h).written = sink.written ++ bytes := by
  have hposition := sink.position_lt
  have hbuffer := sink.capacity_le
  have hlength : (sink.buffer.take sink.position).length = sink.position := by
    rw [List.length_take]
    omega
  simp only [written, push, overwrite]
  rw [List.append_assoc, List.take_append, List.take_of_length_le (by omega), hlength]
  congr 1
  rw [Nat.add_sub_cancel_left, List.append_assoc, List.take_left]

/-- Bytes take as much room as there are of them. -/
@[simp] theorem remaining_push (sink : Sink) (bytes : List UInt8)
    (h : bytes.length ≤ sink.remaining) :
    (sink.push bytes h).remaining = sink.remaining - bytes.length := rfl

/-- A text after what was written before, if it is ASCII and fits. -/
def append (sink : Sink) (text : String) : Except Refusal Sink :=
  match asciiBytes? text with
  | none => .error .notAscii
  | some bytes =>
    if h : bytes.length ≤ sink.remaining then .ok (sink.push bytes h)
    else .error (.noRoom bytes.length sink.remaining)

/-- Pieces in order, up to the first that is refused. -/
def write (sink : Sink) : List String → Sink × Option Refusal
  | [] => (sink, none)
  | piece :: pieces =>
    match sink.append piece with
    | .ok next => next.write pieces
    | .error refusal => (sink, some refusal)

/-- The pieces of an emission, and then its fault. -/
def emit {ε : Type} (sink : Sink) (emission : Emission ε) : Sink × Option (Halt ε) :=
  match sink.write emission.pieces with
  | (final, some refusal) => (final, some (.refused refusal))
  | (final, none) => (final, emission.fault.map .fault)

/-- Pieces in two runs are written one run after the other, unless the first is halted. -/
theorem write_append (sink : Sink) (first second : List String) :
    sink.write (first ++ second) =
      match sink.write first with
      | (next, none) => next.write second
      | (next, some refusal) => (next, some refusal) := by
  induction first generalizing sink with
  | nil => rfl
  | cons piece pieces ih =>
    simp only [List.cons_append, write]
    rcases sink.append piece with refusal | next
    · rfl
    · exact ih next

/-- An emission after another is emitted where the first left off, unless that halted. -/
theorem emit_append {ε : Type} (sink : Sink) (first second : Emission ε) :
    sink.emit (first ++ second) =
      match sink.emit first with
      | (next, none) => next.emit second
      | (final, some halt) => (final, some halt) := by
  obtain ⟨pieces, fault⟩ := first
  rcases fault with - | fault
  · simp only [Emission.append_def, Emission.append, emit, write_append, Option.map_none]
    rcases sink.write pieces with ⟨next, - | refusal⟩ <;> rfl
  · simp only [Emission.append_def, Emission.append, emit, Option.map_some]
    rcases sink.write pieces with ⟨final, - | refusal⟩ <;> rfl

/-- The buffer changed behind the sink's back. -/
def poke (sink : Sink) (index : Nat) (byte : UInt8) : Sink where
  buffer := sink.buffer.set index byte
  capacity := sink.capacity
  position := sink.position
  remaining := sink.remaining
  accounted := sink.accounted
  capacity_le := by simpa using sink.capacity_le

/-- A target with the text and its closing zero at the start. The target keeps what lies
beyond, and grows when it is too short. -/
def deliverTo (sink : Sink) (target : List UInt8) : List UInt8 :=
  sink.buffer.take (sink.position + 1) ++ target.drop (sink.position + 1)

end Sink

end X86Gloss
