/-
X86Gloss/Proofs/Sink/Extends.lean

What a sink does with a text. `Sink.Extends` says of two sinks that the second is the first with one
text more, behind what was written before. There is at most one such sink, and a sink takes a text
exactly if the text is ASCII and there is one (`Sink.append_eq_ok_iff`). What the sink holds plays
no part in this; it may be anything, since others can write to the buffer, too.

Extending by one text and then by another is extending by both. So a sink takes pieces in a row
exactly if it takes them as one text, and it is the same sink afterwards (`Sink.write_cons_iff`).
-/
import X86Gloss.Proofs.Text.Ascii

namespace X86Gloss

/-- Bytes behind those that were replaced are the old ones. -/
theorem getElem?_overwrite {buffer bytes : List UInt8} {position index : Nat}
    (hposition : position ≤ buffer.length) (h : position + bytes.length ≤ index) :
    (overwrite buffer position bytes)[index]? = buffer[index]? := by
  have hhead : (buffer.take position ++ bytes).length = position + bytes.length := by
    rw [List.length_append, List.length_take]
    omega
  rw [overwrite, List.getElem?_append_right (by omega), hhead, List.getElem?_drop]
  congr 1
  omega

namespace Sink

/-! ### A sink with one more text -/

/-- The second sink is the first one with a text more: the text follows what was written before, a
zero byte closes it, and nothing else has changed. -/
structure Extends (sink : Sink) (text : String) (next : Sink) : Prop where
  capacity_eq : next.capacity = sink.capacity
  position_eq : next.position = sink.position + text.length
  remaining_eq : next.remaining + text.length = sink.remaining
  length_eq : next.buffer.length = sink.buffer.length
  written_eq : next.written = sink.written ++ bytesOf text
  closed : next.buffer[next.position]? = some 0
  behind : ∀ index, next.position < index → next.buffer[index]? = sink.buffer[index]?

variable {sink next other last : Sink} {text first second : String}

/-- Bytes that find room are closed by a zero. -/
theorem closed_push (sink : Sink) (bytes : List UInt8) (h : bytes.length ≤ sink.remaining) :
    (sink.push bytes h).buffer[(sink.push bytes h).position]? = some 0 := by
  have hlt := sink.position_lt
  have hle := sink.capacity_le
  have hhead : (sink.buffer.take sink.position ++ bytes).length = sink.position + bytes.length := by
    rw [List.length_append, List.length_take]
    omega
  simp only [push, overwrite]
  rw [← List.append_assoc, List.append_assoc _ [0], List.getElem?_append_right (by omega), hhead,
    Nat.sub_self]
  rfl

theorem extends_push (sink : Sink) {text : String} (h : (bytesOf text).length ≤ sink.remaining) :
    sink.Extends text (sink.push (bytesOf text) h) where
  capacity_eq := rfl
  position_eq := congrArg (sink.position + ·) (length_bytesOf text)
  remaining_eq := by
    rw [length_bytesOf] at h
    rw [remaining_push, length_bytesOf]
    omega
  length_eq := length_buffer_push sink _ h
  written_eq := written_push sink _ h
  closed := closed_push sink _ h
  behind := by
    intro index hindex
    have hposition := sink.position_lt
    have hcapacity := sink.capacity_le
    have hend : sink.position + (bytesOf text ++ [0]).length ≤ index := by
      rw [List.length_append, ← Nat.add_assoc]
      exact hindex
    exact getElem?_overwrite (by omega) hend

namespace Extends

theorem length_le (h : sink.Extends text next) : text.length ≤ sink.remaining := by
  rw [← h.remaining_eq]
  exact Nat.le_add_left _ _

/-- One text and then another are both, one behind the other. -/
theorem append (h : sink.Extends first next) (h' : next.Extends second last) :
    sink.Extends (first ++ second) last where
  capacity_eq := h'.capacity_eq.trans h.capacity_eq
  position_eq := by
    rw [h'.position_eq, h.position_eq, String.length_append, Nat.add_assoc]
  remaining_eq := by
    rw [← h.remaining_eq, ← h'.remaining_eq, String.length_append]
    omega
  length_eq := h'.length_eq.trans h.length_eq
  written_eq := by
    rw [h'.written_eq, h.written_eq, bytesOf_append, List.append_assoc]
  closed := h'.closed
  behind := by
    intro index hindex
    have hnext : next.position < index := by
      rw [h'.position_eq] at hindex
      omega
    rw [h'.behind index hindex, h.behind index hnext]

/-- Every byte is known: what is written stands before the cursor, a zero at the cursor, and behind
it what stood there before. -/
theorem unique (h : sink.Extends text next) (h' : sink.Extends text other) : next = other := by
  have hcapacity : next.capacity = other.capacity := h.capacity_eq.trans h'.capacity_eq.symm
  have hposition : next.position = other.position := h.position_eq.trans h'.position_eq.symm
  have hremaining : next.remaining = other.remaining :=
    Nat.add_right_cancel (h.remaining_eq.trans h'.remaining_eq.symm)
  have hwritten : next.written = other.written := h.written_eq.trans h'.written_eq.symm
  have hbuffer : next.buffer = other.buffer := by
    apply List.ext_getElem?
    intro index
    rcases Nat.lt_trichotomy index next.position with hbefore | hat | hbehind
    · rw [← List.getElem?_take_of_lt hbefore, ← written, hwritten, written,
        List.getElem?_take_of_lt (hposition ▸ hbefore)]
    · rw [hat, h.closed, hposition, h'.closed]
    · rw [h.behind index hbehind, h'.behind index (hposition ▸ hbehind)]
  cases next
  cases other
  cases hcapacity
  cases hposition
  cases hremaining
  cases hbuffer
  rfl

end Extends

/-! ### What becomes of a text -/

/-- A text that is not ASCII is refused, whatever room there is. -/
theorem append_notAscii (sink : Sink) (hascii : ¬ IsAscii text) :
    sink.append text = .error .notAscii := by
  simp only [Sink.append, asciiBytes?_eq_none_iff.mpr hascii]

/-- An ASCII text for which there is no room is refused. -/
theorem append_of_noRoom (hascii : IsAscii text) (hcut : sink.remaining < text.length) :
    sink.append text = .error (.noRoom text.length sink.remaining) := by
  have hno : ¬ (bytesOf text).length ≤ sink.remaining := by
    rw [length_bytesOf]
    omega
  simp only [Sink.append, asciiBytes?_of_isAscii hascii, dif_neg hno]
  rw [length_bytesOf]

/-- An ASCII text for which there is room is taken. -/
theorem append_of_room (hascii : IsAscii text) (hroom : text.length ≤ sink.remaining) :
    ∃ next, sink.append text = .ok next ∧ sink.Extends text next := by
  rw [← length_bytesOf] at hroom
  refine ⟨sink.push (bytesOf text) hroom, ?_, extends_push sink hroom⟩
  simp only [Sink.append, asciiBytes?_of_isAscii hascii, dif_pos hroom]

/-- A sink takes an ASCII text exactly if it can be extended by it. -/
theorem append_eq_ok_iff : sink.append text = .ok next ↔ IsAscii text ∧ sink.Extends text next := by
  constructor
  · intro htaken
    by_cases hascii : IsAscii text
    · rcases Nat.lt_or_ge sink.remaining text.length with hcut | hroom
      · rw [append_of_noRoom hascii hcut] at htaken
        cases htaken
      · obtain ⟨next', htaken', hextends⟩ := append_of_room hascii hroom
        rw [htaken'] at htaken
        cases htaken
        exact ⟨hascii, hextends⟩
    · rw [append_notAscii sink hascii] at htaken
      cases htaken
  · rintro ⟨hascii, hextends⟩
    obtain ⟨next', htaken, hextends'⟩ := append_of_room hascii hextends.length_le
    rw [htaken, hextends'.unique hextends]

/-- A sink refuses ASCII texts for want of room only. -/
theorem append_eq_error_iff (hascii : IsAscii text) {refusal : Refusal} :
    sink.append text = .error refusal
      ↔ sink.remaining < text.length ∧ refusal = .noRoom text.length sink.remaining := by
  rcases Nat.lt_or_ge sink.remaining text.length with hcut | hroom
  · rw [append_of_noRoom hascii hcut, Except.error.injEq]
    exact ⟨fun h => ⟨hcut, h.symm⟩, fun h => h.2.symm⟩
  · obtain ⟨next, htaken, -⟩ := append_of_room hascii hroom
    rw [htaken]
    exact ⟨nofun, fun h => absurd h.1 (Nat.not_lt.mpr hroom)⟩

/-! ### Pieces against the whole -/

/-- A sink takes two texts one after the other exactly if it takes them as one. -/
theorem append_append_iff :
    sink.append (first ++ second) = .ok last
      ↔ ∃ next, sink.append first = .ok next ∧ next.append second = .ok last := by
  constructor
  · intro hwhole
    obtain ⟨hascii, hextends⟩ := append_eq_ok_iff.mp hwhole
    obtain ⟨hfirst, hsecond⟩ := isAscii_append.mp hascii
    have hroom := hextends.remaining_eq
    rw [String.length_append] at hroom
    have hfits : first.length ≤ sink.remaining := by omega
    obtain ⟨next, hnext, hextends₁⟩ := append_of_room hfirst hfits
    have hfits' : second.length ≤ next.remaining := by
      rw [← hextends₁.remaining_eq] at hroom
      omega
    obtain ⟨last', hlast, hextends₂⟩ := append_of_room hsecond hfits'
    refine ⟨next, hnext, ?_⟩
    rw [hlast, (hextends₁.append hextends₂).unique hextends]
  · rintro ⟨next, hnext, hlast⟩
    obtain ⟨hfirst, hextends⟩ := append_eq_ok_iff.mp hnext
    obtain ⟨hsecond, hextends'⟩ := append_eq_ok_iff.mp hlast
    exact append_eq_ok_iff.mpr ⟨isAscii_append.mpr ⟨hfirst, hsecond⟩, hextends.append hextends'⟩

/-- A sink takes pieces in a row exactly if it takes them as one text. There has to be a piece: an
empty text closes what is written anew, and without a piece nothing is done. -/
theorem write_cons_iff {piece : String} {pieces : List String} :
    sink.write (piece :: pieces) = (last, none)
      ↔ sink.append (String.join (piece :: pieces)) = .ok last := by
  induction pieces generalizing sink piece with
  | nil =>
    rw [String.join_cons, String.join_nil, String.append_empty, write]
    rcases sink.append piece with refusal | next <;> simp [write]
  | cons piece' pieces ih =>
    rw [String.join_cons, append_append_iff, write]
    rcases sink.append piece with refusal | next
    · simp
    · simp [ih]

/-- ASCII pieces are all taken if there is room for them together. -/
theorem write_of_room {pieces : List String} (hascii : ∀ piece ∈ pieces, IsAscii piece)
    (hroom : (String.join pieces).length ≤ sink.remaining) : (sink.write pieces).2 = none := by
  rcases pieces with - | ⟨piece, pieces⟩
  · rfl
  · obtain ⟨last, hwhole, -⟩ := append_of_room (isAscii_join.mpr hascii) hroom
    rw [write_cons_iff.mpr hwhole]

end Sink

end X86Gloss
