/-
X86Gloss/Proofs/Sink/Contents.lean

What a sink holds. `Sink.Holds sink text` says that the text stands before the cursor and that
a zero byte closes it. A sink starts out holding nothing; an ASCII piece that fits is added to
what it holds, and any other piece is refused and leaves the sink as it is.

Main results, for pieces written one after another:

* `Holds.write`: whatever the pieces are, those that were taken come after the text from before;
* `Holds.write_fits`: ASCII pieces that fit together are all taken;
* `Holds.write_cut`: the first ASCII piece that does not fit after those before it is refused,
  and the sink holds exactly the pieces before it.

In the end the caller's buffer begins with the text and a zero byte (`Holds.deliverTo`).
-/
import X86Gloss.Proofs.Sink.Extends

namespace X86Gloss

/-! ### A text at the beginning of a buffer -/

/-- A buffer with a text and a zero byte laid over its beginning. -/
def stamp (text : String) (buffer : List UInt8) : List UInt8 :=
  bytesOf text ++ 0 :: buffer.drop (text.length + 1)

theorem length_stamp {text : String} {buffer : List UInt8} (h : text.length < buffer.length) :
    (stamp text buffer).length = buffer.length := by
  simp only [stamp, List.length_append, length_bytesOf, List.length_cons, List.length_drop]
  omega

namespace Sink

/-! ### What a sink holds -/

/-- The text stands before the cursor, and a zero byte closes it. -/
structure Holds (sink : Sink) (text : String) : Prop where
  ascii : IsAscii text
  written : sink.written = bytesOf text
  closed : sink.buffer[sink.position]? = some 0

namespace Holds

variable {sink : Sink} {held piece : String}

theorem position_eq (h : sink.Holds held) : sink.position = held.length := by
  have hlt := sink.position_lt
  have hle := sink.capacity_le
  have hlen : sink.written.length = held.length := by rw [h.written, length_bytesOf]
  rw [Sink.written, List.length_take] at hlen
  omega

theorem text_eq (h : sink.Holds held) : sink.text = held := by
  rw [Sink.text, h.written, byteText_bytesOf h.ascii]

theorem remaining_eq (h : sink.Holds held) : sink.remaining = sink.capacity - 1 - held.length := by
  have haccounted := sink.accounted
  rw [h.position_eq] at haccounted
  omega

theorem length_lt (h : sink.Holds held) : held.length < sink.capacity := by
  rw [← h.position_eq]
  exact sink.position_lt

/-- The caller's buffer receives the text and its closing zero. -/
theorem deliverTo (h : sink.Holds held) (target : List UInt8) :
    sink.deliverTo target = stamp held target := by
  have hhead : sink.buffer.take (sink.position + 1) = bytesOf held ++ [0] := by
    rw [List.take_add_one, h.closed, ← h.written]
    rfl
  rw [Sink.deliverTo, hhead, h.position_eq, stamp, List.append_assoc]
  rfl

end Holds

/-- A new sink holds nothing. -/
theorem holds_start (buffer : List UInt8) (capacity : Capacity buffer.length) :
    (start buffer capacity).Holds "" where
  ascii := isAscii_empty
  written := rfl
  closed := List.getElem?_set_self (Nat.lt_of_lt_of_le capacity.2.1 capacity.2.2)

theorem holds_blank {capacity : Nat} (h : 0 < capacity) : (blank capacity h).Holds "" :=
  holds_start _ _

/-! ### One piece -/

namespace Holds

variable {sink : Sink} {held piece : String}

/-- A sink with one more text holds that text, too. -/
theorem extend {next : Sink} (h : sink.Holds held) (hascii : IsAscii piece)
    (hextends : sink.Extends piece next) : next.Holds (held ++ piece) where
  ascii := isAscii_append.mpr ⟨h.ascii, hascii⟩
  written := by rw [hextends.written_eq, h.written, bytesOf_append]
  closed := hextends.closed

/-- A piece that was taken is added to what the sink holds. -/
theorem of_append {next : Sink} (h : sink.Holds held) (htaken : sink.append piece = .ok next) :
    next.Holds (held ++ piece) ∧ next.capacity = sink.capacity := by
  obtain ⟨hascii, hextends⟩ := append_eq_ok_iff.mp htaken
  exact ⟨h.extend hascii hextends, hextends.capacity_eq⟩

/-- An ASCII piece that fits is taken. -/
theorem append_fits (h : sink.Holds held) (hascii : IsAscii piece)
    (hfits : held.length + piece.length < sink.capacity) :
    ∃ next, sink.append piece = .ok next ∧ next.Holds (held ++ piece)
      ∧ next.capacity = sink.capacity := by
  have hroom : piece.length ≤ sink.remaining := by
    rw [h.remaining_eq]
    omega
  obtain ⟨next, htaken, -⟩ := append_of_room hascii hroom
  exact ⟨next, htaken, h.of_append htaken⟩

/-- An ASCII piece that does not fit is refused. -/
theorem append_noRoom (h : sink.Holds held) (hascii : IsAscii piece)
    (hroom : sink.capacity ≤ held.length + piece.length) :
    sink.append piece = .error (.noRoom piece.length (sink.capacity - 1 - held.length)) := by
  have hlt := h.length_lt
  have hcut : sink.remaining < piece.length := by
    rw [h.remaining_eq]
    omega
  rw [append_of_noRoom hascii hcut, h.remaining_eq]

end Holds

/-! ### Pieces in order -/

/-- The pieces that a sink takes, which are those up to the first that it refuses. -/
def taken (sink : Sink) : List String → List String
  | [] => []
  | piece :: pieces =>
    match sink.append piece with
    | .ok next => piece :: next.taken pieces
    | .error _ => []

namespace Holds

variable {sink : Sink} {held : String}

/-- Whatever the pieces are, the sink holds those that were taken after the text from before. -/
theorem write (h : sink.Holds held) (pieces : List String) :
    (sink.write pieces).1.Holds (held ++ String.join (sink.taken pieces))
      ∧ (sink.write pieces).1.capacity = sink.capacity := by
  induction pieces generalizing sink held with
  | nil => exact ⟨by simpa [Sink.write, taken] using h, rfl⟩
  | cons piece pieces ih =>
    rcases happend : sink.append piece with refusal | next
    · exact ⟨by simpa [Sink.write, taken, happend] using h, by simp [Sink.write, happend]⟩
    · obtain ⟨hnext, hcapacity⟩ := h.of_append happend
      obtain ⟨hmore, hcapacity'⟩ := ih hnext
      refine ⟨?_, ?_⟩
      · simpa only [Sink.write, taken, happend, String.join_cons, String.append_assoc] using hmore
      · simpa only [Sink.write, happend, hcapacity] using hcapacity'

/-- Whatever an emission is, the sink holds some text after it. -/
theorem emit {ε : Type} (h : sink.Holds held) (emission : Emission ε) :
    ∃ text, (sink.emit emission).1.Holds text
      ∧ (sink.emit emission).1.capacity = sink.capacity := by
  obtain ⟨hmore, hcapacity⟩ := h.write emission.pieces
  refine ⟨held ++ String.join (sink.taken emission.pieces), ?_⟩
  unfold Sink.emit
  rcases hwrite : sink.write emission.pieces with ⟨final, - | refusal⟩ <;>
    rw [hwrite] at hmore hcapacity <;> exact ⟨hmore, hcapacity⟩

/-- ASCII pieces that fit together are all taken. -/
theorem write_fits {pieces : List String} (h : sink.Holds held)
    (hascii : ∀ piece ∈ pieces, IsAscii piece)
    (hfits : held.length + (String.join pieces).length < sink.capacity) :
    ∃ final, sink.write pieces = (final, none) ∧ final.Holds (held ++ String.join pieces)
      ∧ final.capacity = sink.capacity := by
  induction pieces generalizing sink held with
  | nil => exact ⟨sink, rfl, by simpa using h, rfl⟩
  | cons piece pieces ih =>
    rw [String.join_cons, String.length_append] at hfits
    obtain ⟨next, htaken, hnext, hcapacity⟩ :=
      h.append_fits (hascii piece List.mem_cons_self) (by omega)
    obtain ⟨final, hwrite, hfinal, hcapacity'⟩ :=
      ih hnext (fun other hmem => hascii other (List.mem_cons_of_mem _ hmem))
        (by rw [String.length_append, hcapacity]; omega)
    refine ⟨final, ?_, ?_, hcapacity'.trans hcapacity⟩
    · simpa only [Sink.write, htaken] using hwrite
    · simpa only [String.join_cons, String.append_assoc] using hfinal

/-- The first ASCII piece that does not fit after those before it is refused. -/
theorem write_cut {before : List String} {piece : String} (h : sink.Holds held)
    (after : List String) (hbefore : ∀ other ∈ before, IsAscii other) (hpiece : IsAscii piece)
    (hfits : held.length + (String.join before).length < sink.capacity)
    (hcut : sink.capacity ≤ held.length + (String.join before).length + piece.length) :
    ∃ final, sink.write (before ++ piece :: after)
        = (final, some (.noRoom piece.length
            (sink.capacity - 1 - (held ++ String.join before).length)))
      ∧ final.Holds (held ++ String.join before) ∧ final.capacity = sink.capacity := by
  obtain ⟨final, hwrite, hfinal, hcapacity⟩ := h.write_fits hbefore hfits
  have hrefused := hfinal.append_noRoom hpiece (by rw [String.length_append, hcapacity]; omega)
  refine ⟨final, ?_, hfinal, hcapacity⟩
  rw [write_append, hwrite]
  simp only [Sink.write, hrefused, hcapacity]

end Holds

end Sink

end X86Gloss
