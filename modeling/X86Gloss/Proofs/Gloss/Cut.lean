/-
X86Gloss/Proofs/Gloss/Cut.lean

What a call writes is the statement of its site, cut where the room ends. `Rule.statement` is
the measure: the pieces that the templates would hand to a sink that never fills, and the fault
behind them, if there is one. It knows nothing of buffers and capacities.

`Emission.CutAt` names the first piece that does not fit. A call with a rule of ASCII words then
ends in one of three ways, and the capacity decides which:

* a piece does not fit: the capacity is exhausted, the pieces before it are kept;
* all pieces fit and a fault follows them: invalid input, the buffer is left alone;
* all pieces fit and nothing follows: success, with the whole text.

The second part of the module draws the consequence for a site with an operand that has no
text. Its fault is reported only if the pieces before the fault fit; in a smaller capacity the
call runs out of room first, and the buffer is written to.
-/
import X86Gloss.Proofs.Gloss.Request
import X86Gloss.Proofs.Sink.Contents
import X86Gloss.Proofs.Statement.Ascii
import X86Gloss.Proofs.Statement.Writing

namespace X86Gloss

variable {ε : Type}

/-! ### The first piece that does not fit -/

namespace Emission

/-- The piece is the first of the emission that does not fit into a capacity behind the pieces
before it; one byte of the capacity is for the closing zero. -/
structure CutAt (emission : Emission ε) (capacity : Nat) (before : List String)
    (piece : String) : Prop where
  split : ∃ after, emission.pieces = before ++ piece :: after
  fits : (String.join before).length < capacity
  exceeds : capacity ≤ (String.join before).length + piece.length

variable {emission : Emission ε} {capacity : Nat}

/-- An emission that is too long as a whole is cut somewhere. -/
theorem exists_cutAt (hpositive : 0 < capacity) (h : capacity ≤ emission.text.length) :
    ∃ before piece, emission.CutAt capacity before piece := by
  -- Induction on the pieces with those before them, which fit so far.
  have aux : ∀ (before pieces : List String), emission.pieces = before ++ pieces →
      (String.join before).length < capacity →
      ∃ before' piece, emission.CutAt capacity before' piece := by
    intro before pieces
    induction pieces generalizing before with
    | nil =>
      intro hsplit hfits
      rw [List.append_nil] at hsplit
      rw [text, hsplit] at h
      omega
    | cons piece pieces ih =>
      intro hsplit hfits
      -- The next piece fits behind those before it and joins them, or it is the one.
      rcases Nat.lt_or_ge ((String.join before).length + piece.length) capacity with hlt | hge
      · refine ih (before ++ [piece]) (by rw [hsplit, List.append_assoc]; rfl) ?_
        simpa using hlt
      · exact ⟨before, piece, ⟨pieces, hsplit⟩, hfits, hge⟩
  exact aux [] emission.pieces rfl (by simpa using hpositive)

/-- Only an emission that is too long is cut. -/
theorem CutAt.capacity_le {before : List String} {piece : String}
    (h : emission.CutAt capacity before piece) : capacity ≤ emission.text.length := by
  obtain ⟨⟨after, hsplit⟩, -, hexceeds⟩ := h
  rw [text, hsplit, String.join_append, String.join_cons, String.length_append,
    String.length_append]
  omega

end Emission

/-! ### Emitting into a sink -/

namespace Sink.Holds

variable {sink : Sink} {emission : Emission ε}

/-- An emission that fits is emitted whole, with its fault at the end. -/
theorem emit_fits (h : sink.Holds "") (hascii : emission.HasAsciiPieces)
    (hfits : emission.text.length < sink.capacity) :
    ∃ final, sink.emit emission = (final, emission.fault.map .fault)
      ∧ final.Holds emission.text := by
  obtain ⟨final, hwrite, hfinal, -⟩ := h.write_fits hascii (by simpa [Emission.text] using hfits)
  refine ⟨final, ?_, by simpa [Emission.text] using hfinal⟩
  simp only [Sink.emit, hwrite]

/-- An emission that does not fit is emitted up to the piece where it is cut. -/
theorem emit_cut {before : List String} {piece : String} (h : sink.Holds "")
    (hascii : emission.HasAsciiPieces) (hcut : emission.CutAt sink.capacity before piece) :
    ∃ final, sink.emit emission = (final, some (.refused (.noRoom piece.length
        (sink.capacity - 1 - (String.join before).length))))
      ∧ final.Holds (String.join before) := by
  obtain ⟨⟨after, hsplit⟩, hfits, hexceeds⟩ := hcut
  have hmem : ∀ other ∈ before ++ piece :: after, IsAscii other := by
    rw [← hsplit]
    exact hascii
  -- The pieces before the cut fit together, so the write stops at the piece itself.
  obtain ⟨final, hwrite, hfinal, -⟩ := h.write_cut after
    (fun other hother => hmem other (List.mem_append_left _ hother)) (hmem piece (by simp))
    (by simpa using hfits) (by simpa using hexceeds)
  rw [String.empty_append] at hwrite hfinal
  refine ⟨final, ?_, hfinal⟩
  simp only [Sink.emit, hsplit, hwrite]

end Sink.Holds

/-! ### Telling a site in a sink -/

namespace RuleTable

variable {table : RuleTable} {rule : Rule} {site : Site} {sink : Sink}

theorem draft_fits (hrule : table.rule? site.instruction.mnemonic = some rule)
    (hascii : rule.HasAsciiTexts) (hsink : sink.Holds "")
    (hfits : (rule.statement site).text.length < sink.capacity)
    (hnone : (rule.statement site).fault = none) :
    ∃ final, table.draft site sink
        = ⟨.ok ⟨.success, (rule.statement site).text, some true⟩, some final, []⟩
      ∧ final.Holds (rule.statement site).text := by
  obtain ⟨final, hemit, hfinal⟩ := hsink.emit_fits (hascii.statement site) hfits
  refine ⟨final, ?_, hfinal⟩
  simp only [draft, hrule, rule.writes_write site sink, hemit, hnone, Option.map_none,
    hfinal.text_eq]

theorem draft_fault {fault : OperandFault}
    (hrule : table.rule? site.instruction.mnemonic = some rule)
    (hascii : rule.HasAsciiTexts) (hsink : sink.Holds "")
    (hfits : (rule.statement site).text.length < sink.capacity)
    (hfault : (rule.statement site).fault = some fault) :
    table.draft site sink = ⟨.ok ⟨.invalidInput (.operand fault), "", some true⟩, none, []⟩ := by
  obtain ⟨final, hemit, -⟩ := hsink.emit_fits (hascii.statement site) hfits
  simp only [draft, hrule, rule.writes_write site sink, hemit, hfault, Option.map_some]

theorem draft_cut {before : List String} {piece : String}
    (hrule : table.rule? site.instruction.mnemonic = some rule)
    (hascii : rule.HasAsciiTexts) (hsink : sink.Holds "")
    (hcut : (rule.statement site).CutAt sink.capacity before piece) :
    ∃ final, table.draft site sink =
        { answer := .ok ⟨.capacityExhausted site.instruction.mnemonic site.address piece.length
            (sink.capacity - 1 - (String.join before).length), String.join before, some true⟩
          output := some final
          rows := [noRoomRow site sink.capacity] }
      ∧ final.Holds (String.join before) := by
  obtain ⟨final, hemit, hfinal⟩ := hsink.emit_cut (hascii.statement site) hcut
  refine ⟨final, ?_, hfinal⟩
  simp only [draft, hrule, rule.writes_write site sink, hemit, hfinal.text_eq]

/-! ### Telling a site in a caller's buffer -/

variable {request : Request} {buffer : List UInt8} {capacity : Nat}

theorem gloss_of_valid (hvalid : request.Valid buffer.length site capacity) :
    table.gloss request (some buffer) =
      (table.draft site (Sink.blank capacity hvalid.positive)).answer.map fun result =>
        { result
          buffer := some
            ((table.draft site (Sink.blank capacity hvalid.positive)).deliverTo buffer)
          rows := (table.draft site (Sink.blank capacity hvalid.positive)).rows } := by
  rw [gloss, call_of_valid hvalid]
  rfl

theorem gloss_noRule (hvalid : request.Valid buffer.length site capacity)
    (hrule : table.rule? site.instruction.mnemonic = none) :
    table.gloss request (some buffer) = .ok
      { result := ⟨.noStatement site.instruction.mnemonic site.address, "", some false⟩
        buffer := some (stamp "" buffer)
        rows := [noRuleRow site] } := by
  have hblank := Sink.holds_blank hvalid.positive
  rw [gloss_of_valid hvalid, ← hblank.deliverTo]
  simp only [draft, hrule, hblank.text_eq]
  rfl

theorem gloss_fits (hvalid : request.Valid buffer.length site capacity)
    (hrule : table.rule? site.instruction.mnemonic = some rule) (hascii : rule.HasAsciiTexts)
    (hfits : (rule.statement site).text.length < capacity)
    (hnone : (rule.statement site).fault = none) :
    table.gloss request (some buffer) =
      .ok ⟨⟨.success, (rule.statement site).text, some true⟩,
        some (stamp (rule.statement site).text buffer), []⟩ := by
  obtain ⟨final, hdraft, hfinal⟩ :=
    draft_fits hrule hascii (Sink.holds_blank hvalid.positive) hfits hnone
  rw [gloss_of_valid hvalid, hdraft, ← hfinal.deliverTo]
  rfl

theorem gloss_fault {fault : OperandFault} (hvalid : request.Valid buffer.length site capacity)
    (hrule : table.rule? site.instruction.mnemonic = some rule) (hascii : rule.HasAsciiTexts)
    (hfits : (rule.statement site).text.length < capacity)
    (hfault : (rule.statement site).fault = some fault) :
    table.gloss request (some buffer) =
      .ok ⟨⟨.invalidInput (.operand fault), "", some true⟩, some buffer, []⟩ := by
  rw [gloss_of_valid hvalid,
    draft_fault hrule hascii (Sink.holds_blank hvalid.positive) hfits hfault]
  rfl

theorem gloss_cut {before : List String} {piece : String}
    (hvalid : request.Valid buffer.length site capacity)
    (hrule : table.rule? site.instruction.mnemonic = some rule) (hascii : rule.HasAsciiTexts)
    (hcut : (rule.statement site).CutAt capacity before piece) :
    table.gloss request (some buffer) = .ok
      { result :=
          { verdict := .capacityExhausted site.instruction.mnemonic site.address piece.length
              (capacity - 1 - (String.join before).length)
            text := String.join before
            listed := some true }
        buffer := some (stamp (String.join before) buffer)
        rows := [noRoomRow site capacity] } := by
  -- What is delivered is what the sink holds, and that are the pieces before the cut.
  obtain ⟨final, hdraft, hfinal⟩ :=
    draft_cut hrule hascii (Sink.holds_blank hvalid.positive) hcut
  rw [gloss_of_valid hvalid, hdraft, ← hfinal.deliverTo]
  rfl

/-- **A call writes the statement up to its cut.**  The reply to a valid request depends on the
pieces of the statement, the fault behind them and the capacity, and on nothing else that the
templates do: either a piece does not fit, and the error names its length and the room for it, or
all of them do, and then the fault counts. -/
theorem gloss_eq_statement_up_to_cut (hascii : table.HasAsciiTexts)
    (hvalid : request.Valid buffer.length site capacity)
    (hrule : table.rule? site.instruction.mnemonic = some rule) :
    (∀ before piece, (rule.statement site).CutAt capacity before piece →
      ∃ reply, table.gloss request (some buffer) = .ok reply
        ∧ reply =
          { result :=
              { verdict := .capacityExhausted site.instruction.mnemonic site.address piece.length
                  (capacity - 1 - (String.join before).length)
                text := String.join before
                listed := some true }
            buffer := some (stamp (String.join before) buffer)
            rows := [noRoomRow site capacity] }
        ∧ reply.result.error
          = some (.of (.noRoom piece.length (capacity - 1 - (String.join before).length : Nat))
            { mnemonic := some site.instruction.mnemonic.text, address := some site.address }))
    ∧ (∀ fault, (rule.statement site).text.length < capacity →
      (rule.statement site).fault = some fault →
      ∃ reply, table.gloss request (some buffer) = .ok reply
        ∧ reply =
          { result := ⟨.invalidInput (.operand fault), "", some true⟩
            buffer := some buffer
            rows := [] }
        ∧ reply.result.error = some (.of fault.problem fault.context))
    ∧ ((rule.statement site).text.length < capacity → (rule.statement site).fault = none →
      ∃ reply, table.gloss request (some buffer) = .ok reply
        ∧ reply =
          { result := ⟨.success, (rule.statement site).text, some true⟩
            buffer := some (stamp (rule.statement site).text buffer)
            rows := [] }
        ∧ reply.result.error = none)
    ∧ ((∃ before piece, (rule.statement site).CutAt capacity before piece)
      ∨ (rule.statement site).text.length < capacity) := by
  have hwords := hascii _ _ hrule
  refine ⟨?_, ?_, ?_, ?_⟩
  · intro before piece hcut
    exact ⟨_, gloss_cut hvalid hrule hwords hcut, rfl, rfl⟩
  · intro fault hfits hfault
    exact ⟨_, gloss_fault hvalid hrule hwords hfits hfault, rfl, rfl⟩
  · intro hfits hnone
    exact ⟨_, gloss_fits hvalid hrule hwords hfits hnone, rfl, rfl⟩
  · -- The total length decides whether there is a cut.
    rcases Nat.lt_or_ge (rule.statement site).text.length capacity with hlt | hge
    · exact .inr hlt
    · exact .inl (Emission.exists_cutAt hvalid.positive hge)

/-- The source register of a move finds no room: destination and operator are kept, and the error
says that the one byte that is left is too little for seven. -/
theorem gloss_mov_cut_before_source :
    ∃ reply,
      standard.gloss ⟨some ⟨.mov, 2, none, 0⟩, some [.ofRegister 37, .ofRegister 40], 0, some 12⟩
          (some (List.replicate 14 0xff)) = .ok reply
      ∧ reply =
        { result := ⟨.capacityExhausted .mov 0 7 1, "(i32)ax = ", some true⟩
          buffer := some (stamp "(i32)ax = " (List.replicate 14 0xff))
          rows := [noRoomRow ⟨⟨.mov, 2, none, 0⟩, [.ofRegister 37, .ofRegister 40], 0⟩ 12] }
      ∧ reply.result.error
        = some (.of (.noRoom 7 1) { mnemonic := some "mov", address := some 0 }) := by
  have hvalid : Request.Valid
      ⟨some ⟨.mov, 2, none, 0⟩, some [.ofRegister 37, .ofRegister 40], 0, some 12⟩
      (List.replicate 14 (0xff : UInt8)).length
      ⟨⟨.mov, 2, none, 0⟩, [.ofRegister 37, .ofRegister 40], 0⟩ 12 :=
    ⟨rfl, rfl, rfl, by decide, by decide, rfl, by decide, by decide⟩
  have hcut : ((Rule.assign " = ").statement
      ⟨⟨.mov, 2, none, 0⟩, [.ofRegister 37, .ofRegister 40], 0⟩).CutAt 12
      ["(i32)ax", " = "] "(i32)bx" :=
    ⟨⟨[";"], rfl⟩, by decide, by decide⟩
  exact (gloss_eq_statement_up_to_cut hasAsciiTexts_standard hvalid rfl).1 _ _ hcut

/-! ### Operands without a text -/

/-- **A fault is found only where the pieces before it fit.**  In a capacity that takes them, a
site whose statement ends in a fault is invalid input and the buffer stays as it was. In any
smaller one the capacity is exhausted first, and the pieces up to the cut go to the buffer. -/
theorem gloss_invalidInput_iff_pieces_fit {fault : OperandFault} (hascii : table.HasAsciiTexts)
    (hvalid : request.Valid buffer.length site capacity)
    (hrule : table.rule? site.instruction.mnemonic = some rule)
    (hfault : (rule.statement site).fault = some fault) :
    ((rule.statement site).text.length < capacity ↔
      ∃ reply, table.gloss request (some buffer) = .ok reply
        ∧ reply.result.outcome = .invalidInput ∧ reply.buffer = some buffer)
    ∧ ((rule.statement site).text.length < capacity →
      table.gloss request (some buffer) = .ok
        { result := ⟨.invalidInput (.operand fault), "", some true⟩
          buffer := some buffer
          rows := [] })
    ∧ (capacity ≤ (rule.statement site).text.length →
      ∃ before piece, (rule.statement site).CutAt capacity before piece
        ∧ table.gloss request (some buffer) = .ok
          { result :=
              { verdict := .capacityExhausted site.instruction.mnemonic site.address piece.length
                  (capacity - 1 - (String.join before).length)
                text := String.join before
                listed := some true }
            buffer := some (stamp (String.join before) buffer)
            rows := [noRoomRow site capacity] }) := by
  have hwords := hascii _ _ hrule
  refine ⟨⟨?_, ?_⟩, ?_, ?_⟩
  · intro hlt
    -- Once the pieces before it fit, the fault is the outcome.
    exact ⟨_, gloss_fault hvalid hrule hwords hlt hfault, rfl, rfl⟩
  · rintro ⟨reply, hreply, houtcome, -⟩
    rcases Nat.lt_or_ge (rule.statement site).text.length capacity with hlt | hge
    · exact hlt
    · -- The cut comes first, and its outcome is another one.
      obtain ⟨before, piece, hcut⟩ := Emission.exists_cutAt hvalid.positive hge
      rw [gloss_cut hvalid hrule hwords hcut] at hreply
      cases hreply
      cases houtcome
  · intro hlt
    exact gloss_fault hvalid hrule hwords hlt hfault
  · intro hge
    obtain ⟨before, piece, hcut⟩ := Emission.exists_cutAt hvalid.positive hge
    exact ⟨before, piece, hcut, gloss_cut hvalid hrule hwords hcut⟩

/-- The missing source of a move is found in a buffer that takes destination and operator. -/
theorem gloss_mov_without_source_in_room :
    standard.gloss ⟨some ⟨.mov, 2, none, 0⟩, some [.ofRegister 53], 0, some 16⟩
        (some (List.replicate 16 0xaa)) = .ok
      { result := ⟨.invalidInput (.operand (.missing .mov 1)), "", some true⟩
        buffer := some (List.replicate 16 0xaa)
        rows := [] } := by
  have hvalid : Request.Valid ⟨some ⟨.mov, 2, none, 0⟩, some [.ofRegister 53], 0, some 16⟩
      (List.replicate 16 (0xaa : UInt8)).length ⟨⟨.mov, 2, none, 0⟩, [.ofRegister 53], 0⟩ 16 :=
    ⟨rfl, rfl, rfl, by decide, by decide, rfl, by decide, by decide⟩
  exact (gloss_invalidInput_iff_pieces_fit hasAsciiTexts_standard hvalid rfl rfl).2.1 (by decide)

/-- It is not found in a buffer that takes the destination only, which is left in the buffer. So
the buffer is not always safe from an operand without a text. -/
theorem not_forall_fault_leaves_buffer :
    ¬ ∀ (table : RuleTable) (rule : Rule) (site : Site) (request : Request) (buffer : List UInt8)
        (capacity : Nat) (fault : OperandFault),
      table.HasAsciiTexts → request.Valid buffer.length site capacity →
      table.rule? site.instruction.mnemonic = some rule →
      (rule.statement site).fault = some fault →
      ∃ reply, table.gloss request (some buffer) = .ok reply
        ∧ reply.result.outcome = .invalidInput ∧ reply.buffer = some buffer := by
  intro hclaim
  obtain ⟨reply, hreply, houtcome, -⟩ := hclaim standard (.assign " = ")
    ⟨⟨.mov, 2, none, 0⟩, [.ofRegister 53], 0⟩
    ⟨some ⟨.mov, 2, none, 0⟩, some [.ofRegister 53], 0, some 8⟩ (List.replicate 16 0xaa) 8
    (.missing .mov 1) hasAsciiTexts_standard
    ⟨rfl, rfl, rfl, by decide, by decide, rfl, by decide, by decide⟩ rfl rfl
  have hcut : standard.gloss ⟨some ⟨.mov, 2, none, 0⟩, some [.ofRegister 53], 0, some 8⟩
      (some (List.replicate 16 0xaa)) = .ok
        { result := ⟨.capacityExhausted .mov 0 3 1, "(i64)a", some true⟩
          buffer := some (stamp "(i64)a" (List.replicate 16 0xaa))
          rows := [noRoomRow ⟨⟨.mov, 2, none, 0⟩, [.ofRegister 53], 0⟩ 8] } := rfl
  rw [hcut] at hreply
  cases hreply
  cases houtcome

end RuleTable

end X86Gloss
