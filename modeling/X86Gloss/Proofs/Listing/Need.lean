/-
X86Gloss/Proofs/Listing/Need.lean

How much room a record needs. From some capacity on, a call for a record comes to one and the
same result, and below it the capacity is exhausted (`exists_needs`): the need of a statement
that can be told, or that ends in a fault, is its length and one byte; a record without a
statement needs nothing. The rows of the calls on the way are all of the debug level.

Doubling the buffer up to a limit therefore passes the need or stops at the limit below it,
wherever it starts; what the record is told as is what one call at the limit decides
(`tell_eq_told`).
-/
import X86Gloss.Listing
import X86Gloss.Proofs.Gloss.Cut

namespace X86Gloss

/-! ### The need of a record -/

namespace Record

variable {record : Record}

/-- The site that a record is told at. -/
def site (record : Record) : Site := ⟨record.instruction, record.operands, record.address⟩

/-- What a record is told as when the call at the limit comes to a result. -/
def told (record : Record) (limit : Nat) (result : Result) : Except TextFailure String :=
  match result.outcome with
  | .success => .ok result.text
  | .invalidInput | .noStatement => .ok record.fallback
  | .capacityExhausted => .error (.reported (.ofReport (record.tooLong limit)))

/-- There is something to tell: the record has operands, and its instruction counts them. -/
def IsComplete (record : Record) : Prop :=
  record.operands ≠ [] ∧ record.instruction.operandCount ≠ 0

/-- The request for a complete record uses the whole of any buffer. -/
theorem valid_request (h : record.IsComplete) {size : Nat} (hpositive : 0 < size) :
    record.request.Valid (List.replicate size (0 : UInt8)).length record.site size :=
  record.site.valid_request h.1 h.2 hpositive

/-- The request for any other record is faulty in all buffers. -/
theorem check_request (h : ¬ record.IsComplete) :
    ∃ fault, ∀ buffer, record.request.check (some buffer) = .error fault := by
  obtain ⟨address, size, assembly, instruction, operands⟩ := record
  rcases operands with - | ⟨operand, operands⟩
  · exact ⟨.noOperands, fun buffer => rfl⟩
  · by_cases hcount : instruction.operandCount = 0
    · exact ⟨.noOperandCount instruction.mnemonic, fun buffer => by
        simp only [request, Request.check, if_pos hcount]⟩
    · exact absurd ⟨List.cons_ne_nil _ _, hcount⟩ h

end Record

namespace RuleTable

variable {table : RuleTable} {record : Record} {need : Nat} {result : Result}

/-- A call for the record comes to the result in a buffer of the size that it needs, and runs out
of room in any smaller one. -/
structure Needs (table : RuleTable) (record : Record) (need : Nat) (result : Result) : Prop where
  conclusive : result.outcome ≠ .capacityExhausted
  enough : ∀ size, 0 < size → need ≤ size → ∃ reply,
    table.gloss record.request (some (List.replicate size 0)) = .ok reply
      ∧ reply.result = result ∧ ∀ row ∈ reply.rows, row.level = .debug
  short : ∀ size, 0 < size → size < need → ∃ reply,
    table.gloss record.request (some (List.replicate size 0)) = .ok reply
      ∧ reply.result.outcome = .capacityExhausted ∧ ∀ row ∈ reply.rows, row.level = .debug

/-- A record that is not complete is invalid input in all buffers. -/
theorem gloss_of_not_isComplete (h : ¬ record.IsComplete) : ∃ fault listed, ∀ buffer,
    table.gloss record.request (some buffer)
      = .ok ⟨⟨.invalidInput fault, "", listed⟩, some buffer, []⟩ := by
  obtain ⟨fault, hcheck⟩ := record.check_request h
  refine ⟨fault, some (table.lists record.instruction.mnemonic), ?_⟩
  intro buffer
  rw [gloss, call, hcheck]
  rfl

theorem needs_of_not_isComplete (h : ¬ record.IsComplete) :
    ∃ result, table.Needs record 0 result := by
  obtain ⟨fault, listed, hgloss⟩ := table.gloss_of_not_isComplete h
  refine ⟨⟨.invalidInput fault, "", listed⟩, nofun, ?_, ?_⟩
  · intro size _ _
    exact ⟨_, hgloss _, rfl, List.forall_mem_nil _⟩
  · intro size _ hlt
    exact absurd hlt (Nat.not_lt_zero size)

theorem needs_of_noRule (hcomplete : record.IsComplete)
    (hrule : table.rule? record.instruction.mnemonic = none) :
    ∃ result, table.Needs record 0 result := by
  refine ⟨⟨.noStatement record.instruction.mnemonic record.address, "", some false⟩, nofun, ?_, ?_⟩
  · intro size hpositive _
    exact ⟨_, gloss_noRule (Record.valid_request hcomplete hpositive) hrule, rfl,
      List.forall_mem_singleton.mpr rfl⟩
  · intro size _ hlt
    exact absurd hlt (Nat.not_lt_zero size)

/-- With a rule the need is that of the statement, be there a fault behind it or not. -/
theorem needs_of_rule {rule : Rule} (hcomplete : record.IsComplete)
    (hrule : table.rule? record.instruction.mnemonic = some rule) (hascii : rule.HasAsciiTexts) :
    ∃ result, table.Needs record ((rule.statement record.site).text.length + 1) result := by
  have hvalid : ∀ {size : Nat}, 0 < size →
      record.request.Valid (List.replicate size (0 : UInt8)).length record.site size :=
    fun hpositive => Record.valid_request hcomplete hpositive
  -- Below the length of the statement and its closing zero some piece is cut off, whatever comes
  -- behind it.
  have hshort : ∀ size, 0 < size → size < (rule.statement record.site).text.length + 1 →
      ∃ reply, table.gloss record.request (some (List.replicate size 0)) = .ok reply
        ∧ reply.result.outcome = .capacityExhausted
        ∧ ∀ row ∈ reply.rows, row.level = .debug := by
    intro size hpositive hlt
    obtain ⟨before, piece, hcut⟩ := Emission.exists_cutAt hpositive (Nat.le_of_lt_succ hlt)
    exact ⟨_, gloss_cut (hvalid hpositive) hrule hascii hcut, rfl,
      List.forall_mem_singleton.mpr rfl⟩
  rcases hfault : (rule.statement record.site).fault with - | fault
  · refine ⟨⟨.success, (rule.statement record.site).text, some true⟩, nofun, ?_, hshort⟩
    intro size hpositive hfits
    exact ⟨_, gloss_fits (hvalid hpositive) hrule hascii hfits hfault, rfl,
      List.forall_mem_nil _⟩
  · refine ⟨⟨.invalidInput (.operand fault), "", some true⟩, nofun, ?_, hshort⟩
    intro size hpositive hfits
    exact ⟨_, gloss_fault (hvalid hpositive) hrule hascii hfits hfault, rfl,
      List.forall_mem_nil _⟩

/-- Every record has a need. -/
theorem exists_needs (hascii : table.HasAsciiTexts) (record : Record) :
    ∃ need result, table.Needs record need result := by
  by_cases hcomplete : record.IsComplete
  · rcases hrule : table.rule? record.instruction.mnemonic with - | rule
    · exact ⟨0, needs_of_noRule hcomplete hrule⟩
    · exact ⟨_, needs_of_rule hcomplete hrule (hascii _ _ hrule)⟩
  · exact ⟨0, needs_of_not_isComplete hcomplete⟩

/-- A call for a record is never refused. -/
theorem Needs.answers (h : table.Needs record need result) {size : Nat} (hpositive : 0 < size) :
    ∃ reply, table.gloss record.request (some (List.replicate size 0)) = .ok reply := by
  rcases Nat.lt_or_ge size need with hlt | hge
  · obtain ⟨reply, hreply, -⟩ := h.short size hpositive hlt
    exact ⟨reply, hreply⟩
  · obtain ⟨reply, hreply, -⟩ := h.enough size hpositive hge
    exact ⟨reply, hreply⟩

variable {size other : Nat} {reply reply' : Reply}

/-- A call for a record leaves rows of the debug level only. -/
theorem Needs.rows_debug (h : table.Needs record need result) (hpositive : 0 < size)
    (hreply : table.gloss record.request (some (List.replicate size 0)) = .ok reply) :
    ∀ row ∈ reply.rows, row.level = .debug := by
  rcases Nat.lt_or_ge size need with hlt | hge
  · obtain ⟨short, hshort, -, hrows⟩ := h.short size hpositive hlt
    cases hreply.symm.trans hshort
    exact hrows
  · obtain ⟨enough, henough, -, hrows⟩ := h.enough size hpositive hge
    cases hreply.symm.trans henough
    exact hrows

/-- A result other than exhaustion is the result in every larger buffer. -/
theorem Needs.persists (h : table.Needs record need result) (hpositive : 0 < size)
    (hle : size ≤ other)
    (hreply : table.gloss record.request (some (List.replicate size 0)) = .ok reply)
    (hreply' : table.gloss record.request (some (List.replicate other 0)) = .ok reply')
    (hconclusive : reply.result.outcome ≠ .capacityExhausted) : reply'.result = reply.result := by
  -- A conclusive result is not one from below the need, and above it all results are the same.
  rcases Nat.lt_or_ge size need with hlt | hge
  · obtain ⟨short, hshort, hexhausted, -⟩ := h.short size hpositive hlt
    cases hreply.symm.trans hshort
    exact absurd hexhausted hconclusive
  · obtain ⟨first, hfirst, hresult, -⟩ := h.enough size hpositive hge
    obtain ⟨second, hsecond, hresult', -⟩ :=
      h.enough other (Nat.lt_of_lt_of_le hpositive hle) (Nat.le_trans hge hle)
    cases hreply.symm.trans hfirst
    cases hreply'.symm.trans hsecond
    exact hresult'.trans hresult.symm

/-! ### Doubling the buffer -/

/-- The buffer is doubled until the record has what it needs, or up to the limit. What the record
is told as either way is what one call at the limit decides. -/
theorem Needs.tellFrom_eq_told (h : table.Needs record need result) {limit capacity : Nat}
    (hpositive : 0 < capacity) (hbounded : capacity ≤ limit) {last : Reply}
    (hlast : table.gloss record.request (some (List.replicate limit 0)) = .ok last) :
    (table.tellFrom record limit capacity).text = record.told limit last.result
    ∧ ∀ row ∈ (table.tellFrom record limit capacity).rows, row.level = .debug := by
  -- Along the recursion; a result that ends it is also the result at the limit.
  fun_induction tellFrom table record limit capacity with
  | case1 capacity refusal hrefused =>
    obtain ⟨reply, hreply⟩ := h.answers hpositive
    cases hrefused.symm.trans hreply
  | case2 capacity reply hreply houtcome
  | case3 capacity reply hreply houtcome
  | case4 capacity reply hreply houtcome =>
    have hsame := h.persists hpositive hbounded hreply hlast (by rw [houtcome]; nofun)
    exact ⟨by simp only [Record.told, hsame, houtcome], h.rows_debug hpositive hreply⟩
  | case5 capacity reply hreply houtcome hgrows telling ih =>
    obtain ⟨htext, hrows⟩ := ih (by omega) (Nat.min_le_right _ _)
    refine ⟨htext, ?_⟩
    intro row hrow
    rcases List.mem_append.mp hrow with hrow | hrow
    · exact h.rows_debug hpositive hreply row hrow
    · exact hrows row hrow
  | case6 capacity reply hreply houtcome hstuck =>
    -- The last case: the buffer is not doubled any more, which is so at the limit only.
    have hlimit : capacity = limit := by omega
    subst hlimit
    cases hreply.symm.trans hlast
    exact ⟨by simp only [Record.told, houtcome], h.rows_debug hpositive hreply⟩

/-- A call for a record without a rule has no statement to tell. -/
theorem told_of_rule?_eq_none (hrule : table.rule? record.instruction.mnemonic = none)
    {limit : Nat} (hpositive : 0 < limit)
    (hreply : table.gloss record.request (some (List.replicate limit 0)) = .ok reply) :
    record.told limit reply.result = .ok record.fallback := by
  by_cases hcomplete : record.IsComplete
  · cases hreply.symm.trans (gloss_noRule (Record.valid_request hcomplete hpositive) hrule)
    rfl
  · obtain ⟨fault, listed, hgloss⟩ := table.gloss_of_not_isComplete hcomplete
    cases hreply.symm.trans (hgloss _)
    rfl

/-- A record is told as what one call at the limit decides, wherever the doubling starts; a
mnemonic that the table does not list is not told otherwise than if it were tried. -/
theorem tell_eq_told (hascii : table.HasAsciiTexts) (record : Record) {limit capacity : Nat}
    (hpositive : 0 < capacity) (hbounded : capacity ≤ limit) :
    ∃ last, table.gloss record.request (some (List.replicate limit 0)) = .ok last
      ∧ (table.tell record limit capacity).text = record.told limit last.result
      ∧ ∀ row ∈ (table.tell record limit capacity).rows, row.level = .debug := by
  obtain ⟨need, result, hneeds⟩ := exists_needs hascii record
  obtain ⟨last, hlast⟩ := hneeds.answers (Nat.lt_of_lt_of_le hpositive hbounded)
  refine ⟨last, hlast, ?_⟩
  -- A mnemonic that is not listed has no rule, so trying it would have come to the same.
  by_cases hlists : table.lists record.instruction.mnemonic = true
  · rw [tell, if_pos hlists]
    exact hneeds.tellFrom_eq_told hpositive hbounded hlast
  · have hrule : table.rule? record.instruction.mnemonic = none := by
      simp only [lists, Option.not_isSome_iff_eq_none] at hlists
      rw [rule?, hlists]
      rfl
    rw [tell, if_neg hlists]
    exact ⟨(told_of_rule?_eq_none hrule (by omega) hlast).symm, List.forall_mem_nil _⟩

end RuleTable

end X86Gloss
