/-
X86Gloss/Proofs/Gloss/Deficit.lean

How much room is missing when the capacity is exhausted. The error of such a call names the length
of the piece that found no room and the room that was left; the difference is the deficit. It is
exact: with less than it added to the capacity the same piece is cut off again, and with all of it
the piece is taken. So a call that is tried again with the deficit added makes progress each time,
and since a statement has an end it comes to a result that no larger capacity changes.

* `Emission.CutAt.widen` and `Emission.CutAt.exists_more` compare the cuts of one emission in two
  capacities;
* `RuleTable.settles_or_cutAt` says that a capacity is either enough for good or cuts a piece off;
* `RuleTable.exists_iterate_enlarge` follows the tries to the end.

`RuleTable.deficit_spec` puts them together.
-/
import Mathlib.Logic.Function.Iterate
import X86Gloss.Proofs.Gloss.Ending

namespace X86Gloss

variable {ε : Type}

/-! ### Cuts in two capacities -/

namespace Emission.CutAt

variable {emission : Emission ε} {capacity other : Nat} {before : List String} {piece : String}

/-- As long as the piece does not fit, the cut stays where it is. -/
theorem widen (h : emission.CutAt capacity before piece) (hle : capacity ≤ other)
    (hlt : other ≤ (String.join before).length + piece.length) :
    emission.CutAt other before piece :=
  ⟨h.split, Nat.lt_of_lt_of_le h.fits hle, hlt⟩

/-- Pieces that fit together come before the cut. -/
theorem isPrefix_of_fits (h : emission.CutAt capacity before piece) {front : List String}
    (hfront : front <+: emission.pieces) (hfits : (String.join front).length < capacity) :
    front <+: before := by
  obtain ⟨after, hsplit⟩ := h.split
  have hcut : before ++ [piece] <+: emission.pieces := ⟨after, by rw [hsplit]; simp⟩
  -- A beginning that holds the piece does not fit.
  have hshort : ¬ before ++ [piece] <+: front := by
    rintro ⟨more, rfl⟩
    have hexceeds := h.exceeds
    simp only [String.join_append, String.join_cons, String.join_nil, String.append_empty,
      String.length_append] at hfits
    omega
  rcases List.prefix_or_prefix_of_prefix hfront hcut with hle | hge
  · rcases List.prefix_concat_iff.mp hle with rfl | hle
    · exact absurd List.prefix_rfl hshort
    · exact hle
  · exact absurd hge hshort

/-- Once the piece fits, more is taken than before. -/
theorem exists_more {before' : List String} {piece' : String}
    (h : emission.CutAt capacity before piece) (h' : emission.CutAt other before' piece')
    (hlt : (String.join before).length + piece.length < other) :
    ∃ more, more ≠ "" ∧ String.join before' = String.join before ++ more := by
  obtain ⟨after, hsplit⟩ := h.split
  -- The larger capacity takes at least the pieces up to the one that was cut off.
  have htaken : before ++ [piece] <+: before' := by
    refine h'.isPrefix_of_fits ⟨after, by rw [hsplit]; simp⟩ ?_
    simpa using hlt
  obtain ⟨more, rfl⟩ := htaken
  refine ⟨piece ++ String.join more, ?_, by simp⟩
  -- A piece that does not fit is not empty.
  intro hempty
  have hlength := congrArg String.length hempty
  have hfits := h.fits
  have hexceeds := h.exceeds
  rw [String.length_append, String.length_empty] at hlength
  omega

end Emission.CutAt

/-! ### What a capacity comes to -/

/-- How much longer a piece that found no room is than the room that was left. -/
def Problem.deficit : Problem → Nat
  | .noRoom requested remaining => (requested - remaining).toNat
  | _ => 0

/-- What a result is short of, as its error tells. -/
def Result.deficit (result : Result) : Nat :=
  result.error.elim 0 fun diagnostic => diagnostic.report.problem.deficit

/-- The result of a call that runs out of room at a piece. -/
def Site.exhausted (site : Site) (capacity : Nat) (before : List String) (piece : String) :
    Result where
  verdict := .capacityExhausted site.instruction.mnemonic site.address piece.length
    (capacity - 1 - (String.join before).length)
  text := String.join before
  listed := some true

/-- Its deficit takes a capacity to where the piece and its closing zero fit. -/
theorem Site.add_deficit_exhausted {emission : Emission ε} {capacity : Nat} {before : List String}
    {piece : String} (site : Site) (h : emission.CutAt capacity before piece) :
    capacity + (site.exhausted capacity before piece).deficit
      = (String.join before).length + piece.length + 1 := by
  have hfits := h.fits
  have hexceeds := h.exceeds
  change capacity
    + ((piece.length : Int) - (capacity - 1 - (String.join before).length : Nat)).toNat = _
  omega

namespace RuleTable

/-- Whoever asks to tell the site in the capacity, in a buffer that is long enough for it, gets the
result. -/
def ComesTo (table : RuleTable) (site : Site) (capacity : Nat) (result : Result) : Prop :=
  ∀ (request : Request) (buffer : List UInt8), request.Valid buffer.length site capacity →
    ∃ reply, table.gloss request (some buffer) = .ok reply ∧ reply.result = result

/-- The result is final from the capacity on: no larger one comes to another. -/
def Settles (table : RuleTable) (site : Site) (capacity : Nat) (result : Result) : Prop :=
  result.outcome ≠ .capacityExhausted
    ∧ ∀ other, capacity ≤ other → table.ComesTo site other result

/-- The capacity to try next: what a call in the given one is short of is added to it. -/
def enlarge (table : RuleTable) (site : Site) (capacity : Nat) : Nat :=
  match (table.call (site.request none) (some (List.replicate capacity 0))).answer with
  | .ok result => capacity + result.deficit
  | .error _ => capacity

variable {table : RuleTable} {site : Site} {capacity other : Nat} {result : Result}
variable {request : Request} {buffer : List UInt8} {reply : Reply}

theorem ComesTo.result_eq (h : table.ComesTo site capacity result)
    (hvalid : request.Valid buffer.length site capacity)
    (hgloss : table.gloss request (some buffer) = .ok reply) : reply.result = result := by
  obtain ⟨reply', hreply, hresult⟩ := h request buffer hvalid
  cases hgloss.symm.trans hreply
  exact hresult

theorem comesTo_exhausted {rule : Rule} {before : List String} {piece : String}
    (hascii : table.HasAsciiTexts) (hrule : table.rule? site.instruction.mnemonic = some rule)
    (hcut : (rule.statement site).CutAt capacity before piece) :
    table.ComesTo site capacity (site.exhausted capacity before piece) := by
  intro request buffer hvalid
  exact ⟨_, gloss_cut hvalid hrule (hascii _ _ hrule) hcut, rfl⟩

/-- A capacity is enough for good, or it cuts a piece off. -/
theorem settles_or_cutAt (hascii : table.HasAsciiTexts) (site : Site) (hpositive : 0 < capacity) :
    (∃ result, table.Settles site capacity result)
    ∨ ∃ rule before piece, table.rule? site.instruction.mnemonic = some rule
      ∧ (rule.statement site).CutAt capacity before piece := by
  rcases hrule : table.rule? site.instruction.mnemonic with - | rule
  · refine .inl ⟨⟨.noStatement site.instruction.mnemonic site.address, "", some false⟩, nofun, ?_⟩
    intro other _ request buffer hvalid
    exact ⟨_, gloss_noRule hvalid hrule, rfl⟩
  have hwords := hascii _ _ hrule
  -- Either all pieces fit, here and in every larger capacity, or one is cut off here.
  rcases Nat.lt_or_ge (rule.statement site).text.length capacity with hfits | hlong
  · rcases hfault : (rule.statement site).fault with - | fault
    · refine .inl ⟨⟨.success, (rule.statement site).text, some true⟩, nofun, ?_⟩
      intro other hle request buffer hvalid
      exact ⟨_, gloss_fits hvalid hrule hwords (by omega) hfault, rfl⟩
    · refine .inl ⟨⟨.invalidInput (.operand fault), "", some true⟩, nofun, ?_⟩
      intro other hle request buffer hvalid
      exact ⟨_, gloss_fault hvalid hrule hwords (by omega) hfault, rfl⟩
  · obtain ⟨before, piece, hcut⟩ := Emission.exists_cutAt hpositive hlong
    exact .inr ⟨rule, before, piece, rfl, hcut⟩

/-! ### One try after another -/

/-- A try that runs out of room at a piece is followed by one where the piece fits. -/
theorem enlarge_of_cutAt {rule : Rule} {before : List String} {piece : String}
    (hascii : table.HasAsciiTexts) (hpresent : site.operands ≠ [])
    (hcounted : site.instruction.operandCount ≠ 0) (hpositive : 0 < capacity)
    (hrule : table.rule? site.instruction.mnemonic = some rule)
    (hcut : (rule.statement site).CutAt capacity before piece) :
    table.enlarge site capacity = (String.join before).length + piece.length + 1 := by
  have hvalid := site.valid_request hpresent hcounted hpositive
  -- The try answers with the cut, whose deficit is what is added.
  have hanswer : (table.call (site.request none) (some (List.replicate capacity 0))).answer
      = .ok (site.exhausted capacity before piece) := by
    obtain ⟨final, hdraft, -⟩ :=
      draft_cut hrule (hascii _ _ hrule) (Sink.holds_blank hvalid.positive) hcut
    rw [call_of_valid hvalid, hdraft]
    rfl
  simp only [enlarge, hanswer]
  exact site.add_deficit_exhausted hcut

/-- The tries end in a capacity that is enough for good. -/
theorem exists_iterate_enlarge (hascii : table.HasAsciiTexts) (hpresent : site.operands ≠ [])
    (hcounted : site.instruction.operandCount ≠ 0) (hpositive : 0 < capacity) :
    ∃ retries result, table.Settles site ((table.enlarge site)^[retries] capacity) result := by
  rcases hrule : table.rule? site.instruction.mnemonic with - | rule
  · rcases settles_or_cutAt hascii site hpositive with
      ⟨result, hsettles⟩ | ⟨rule, before, piece, hsome, -⟩
    · exact ⟨0, result, hsettles⟩
    · rw [hrule] at hsome
      cases hsome
  -- Every try takes a piece more, so what the capacity is short of the statement goes down.
  induction hshort : (rule.statement site).text.length + 1 - capacity
    using Nat.strongRecOn generalizing capacity with
  | ind short ih =>
    rcases settles_or_cutAt hascii site hpositive with
      ⟨result, hsettles⟩ | ⟨rule', before, piece, hsome, hcut⟩
    · exact ⟨0, result, hsettles⟩
    · cases hrule.symm.trans hsome
      have hnext := enlarge_of_cutAt hascii hpresent hcounted hpositive hrule hcut
      have hlength : (String.join before).length + piece.length
          ≤ (rule.statement site).text.length := by
        obtain ⟨after, hsplit⟩ := hcut.split
        simp only [Emission.text, hsplit, String.join_append, String.join_cons,
          String.length_append]
        omega
      have hexceeds := hcut.exceeds
      obtain ⟨retries, result, hsettles⟩ :=
        ih ((rule.statement site).text.length + 1 - table.enlarge site capacity)
          (by omega) (by omega) rfl
      exact ⟨retries + 1, result, hsettles⟩

/-! ### The deficit -/

/-- A call that exhausted its capacity was valid, and a piece was cut off. -/
theorem exists_cutAt_of_exhausted (hascii : table.HasAsciiTexts) {given : Option (List UInt8)}
    (hgloss : table.gloss request given = .ok reply)
    (hexhausted : reply.result.outcome = .capacityExhausted) :
    ∃ buffer site capacity rule before piece, given = some buffer
      ∧ request.Valid buffer.length site capacity
      ∧ table.rule? site.instruction.mnemonic = some rule
      ∧ (rule.statement site).CutAt capacity before piece
      ∧ reply.result = site.exhausted capacity before piece := by
  cases ends_of_gloss hascii hgloss with
  | refused | ruleless | faulty | whole => cases hexhausted
  | cut hvalid hrule hcut => exact ⟨_, _, _, _, _, _, rfl, hvalid, hrule, hcut, rfl⟩

/-- **The deficit is exact.**  A call that exhausts its capacity has an error that names a piece and
the room for it, and is short of a deficit of at least one. Any capacity that adds less comes to the
same text and asks for the same piece, and the one that adds the deficit comes to another outcome or
to more text. A valid call with any other outcome comes to the same result in every larger capacity,
and adding deficits ends in such a call. -/
theorem deficit_spec (hascii : table.HasAsciiTexts) :
    (∀ request given reply, table.gloss request given = .ok reply →
      reply.result.outcome = .capacityExhausted →
      ∃ (buffer : List UInt8) (site : Site) (capacity requested remaining : Nat),
        given = some buffer ∧ request.Valid buffer.length site capacity
        ∧ reply.result.error = some (.of (.noRoom requested remaining)
          { mnemonic := some site.instruction.mnemonic.text, address := some site.address })
        ∧ remaining < requested
        ∧ (∀ other, capacity ≤ other → other < capacity + (requested - remaining) →
          ∃ (result : Result) (remaining' : Nat), table.ComesTo site other result
            ∧ result.outcome = .capacityExhausted
            ∧ result.error = some (.of (.noRoom requested remaining')
              { mnemonic := some site.instruction.mnemonic.text, address := some site.address })
            ∧ result.text = reply.result.text)
        ∧ ∃ result, table.ComesTo site (capacity + (requested - remaining)) result
          ∧ (result.outcome ≠ .capacityExhausted
            ∨ ∃ more, more ≠ "" ∧ result.text = reply.result.text ++ more))
    ∧ ∀ request buffer site capacity, request.Valid buffer.length site capacity →
      (∀ reply, table.gloss request (some buffer) = .ok reply →
        reply.result.outcome ≠ .capacityExhausted →
        ∀ other, capacity ≤ other → table.ComesTo site other reply.result)
      ∧ ∃ retries result, table.Settles site ((table.enlarge site)^[retries] capacity) result := by
  refine ⟨?_, ?_⟩
  · intro request given reply hgloss hexhausted
    obtain ⟨buffer, site, capacity, rule, before, piece, rfl, hvalid, hrule, hcut, hresult⟩ :=
      exists_cutAt_of_exhausted hascii hgloss hexhausted
    have hfits := hcut.fits
    have hexceeds := hcut.exceeds
    have hnext : capacity + (piece.length - (capacity - 1 - (String.join before).length))
        = (String.join before).length + piece.length + 1 := by omega
    rw [hresult]
    refine ⟨buffer, site, capacity, piece.length, capacity - 1 - (String.join before).length, rfl,
      hvalid, rfl, by omega, ?_, ?_⟩
    · -- The cut stays where it is, and what is left of a larger capacity is all that differs.
      intro other hle hlt
      have hwider := hcut.widen hle (by omega)
      exact ⟨_, _, comesTo_exhausted hascii hrule hwider, rfl, rfl, rfl⟩
    · rw [hnext]
      rcases settles_or_cutAt hascii site (Nat.succ_pos _) with
        ⟨result, hother, hsettles⟩ | ⟨rule', before', piece', hrule', hcut'⟩
      · exact ⟨result, hsettles _ (Nat.le_refl _), .inl hother⟩
      · cases hrule.symm.trans hrule'
        obtain ⟨more, hmore, htext⟩ := hcut.exists_more hcut' (Nat.lt_succ_self _)
        exact ⟨_, comesTo_exhausted hascii hrule hcut', .inr ⟨more, hmore, htext⟩⟩
  · intro request buffer site capacity hvalid
    refine ⟨?_, exists_iterate_enlarge hascii hvalid.present hvalid.counted hvalid.positive⟩
    intro reply hgloss hother
    rcases settles_or_cutAt hascii site hvalid.positive with
      ⟨result, -, hsettles⟩ | ⟨rule, before, piece, hrule, hcut⟩
    · rw [(hsettles capacity (Nat.le_refl _)).result_eq hvalid hgloss]
      exact hsettles
    · rw [(comesTo_exhausted hascii hrule hcut).result_eq hvalid hgloss] at hother
      exact absurd rfl hother

/-- A move whose source does not fit into twelve bytes: the error asks for seven bytes where one is
left, and with the six that are missing the source is taken. -/
theorem deficit_mov :
    ∃ reply, standard.gloss
        ⟨some ⟨.mov, 2, none, 0⟩, some [.ofRegister 37, .ofRegister 40], 0, some 12⟩
        (some (List.replicate 14 0xff)) = .ok reply
      ∧ reply.result.error
        = some (.of (.noRoom 7 1) { mnemonic := some "mov", address := some 0 })
      ∧ ∃ result,
        standard.ComesTo ⟨⟨.mov, 2, none, 0⟩, [.ofRegister 37, .ofRegister 40], 0⟩ 18 result
        ∧ (result.outcome ≠ .capacityExhausted
          ∨ ∃ more, more ≠ "" ∧ result.text = "(i32)ax = " ++ more) := by
  have hgloss : standard.gloss
      ⟨some ⟨.mov, 2, none, 0⟩, some [.ofRegister 37, .ofRegister 40], 0, some 12⟩
      (some (List.replicate 14 0xff)) = .ok
        { result := ⟨.capacityExhausted .mov 0 7 1, "(i32)ax = ", some true⟩
          buffer := some (stamp "(i32)ax = " (List.replicate 14 0xff))
          rows := [noRoomRow ⟨⟨.mov, 2, none, 0⟩, [.ofRegister 37, .ofRegister 40], 0⟩ 12] } := rfl
  obtain ⟨buffer, ⟨instruction, operands, address⟩, capacity, requested, remaining, -, hvalid,
    herror, -, -, hnext⟩ := (deficit_spec hasAsciiTexts_standard).1 _ _ _ hgloss rfl
  cases hvalid.instruction
  cases hvalid.operands
  cases hvalid.address
  cases Int.ofNat.inj hvalid.effective
  cases herror
  exact ⟨_, hgloss, rfl, hnext⟩

end RuleTable

end X86Gloss
