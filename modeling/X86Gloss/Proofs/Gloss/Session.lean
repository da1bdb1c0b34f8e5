/-
X86Gloss/Proofs/Gloss/Session.lean

One buffer for many calls. Between two calls nothing is kept but the buffer, and no call reads
it: a statement is written in a sink of its own and laid over the beginning of the buffer when
it is done. This holds of every rule table, also of one whose words are not ASCII; a call that
meets such a word is refused.

* `RuleTable.call_leaves` is the step: a call keeps the buffer, or lays its text and a closing
  zero over the beginning.
* `leftBy_session` is the run: after any number of calls, each byte is what the last call that
  covered it wrote, or what was there at first.
* `RuleTable.session_getElem?` says that a call of a session is a call with the buffer that
  those before it left.
* `RuleTable.glossText_eq_asText` says that the text of a call is to be had without the buffer.

`RuleTable.session_spec` puts them together.
-/
import X86Gloss.Proofs.Gloss.Request
import X86Gloss.Proofs.Sink.Contents
import X86Gloss.Proofs.Statement.Writing
import X86Gloss.Rule.Standard

namespace X86Gloss

/-! ### What one call does to a buffer -/

theorem getElem?_stamp (text : String) (buffer : List UInt8) (p : Nat) :
    (stamp text buffer)[p]? = (bytesOf text ++ [0])[p]?.or buffer[p]? := by
  have hstamp : stamp text buffer = (bytesOf text ++ [0]) ++ buffer.drop (text.length + 1) := by
    rw [stamp, List.append_assoc]
    rfl
  have hlength : (bytesOf text ++ [(0 : UInt8)]).length = text.length + 1 := by
    rw [List.length_append, length_bytesOf, List.length_singleton]
  rw [hstamp]
  rcases Nat.lt_or_ge p (text.length + 1) with hlt | hge
  · rw [List.getElem?_append_left (by omega), List.getElem?_eq_getElem (by omega), Option.some_or]
  · have hnone : (bytesOf text ++ [(0 : UInt8)])[p]? = none := List.getElem?_eq_none (by omega)
    rw [List.getElem?_append_right (by omega), hnone, hlength, List.getElem?_drop,
      Nat.add_sub_cancel' hge, Option.none_or]

/-- The answer of a call that keeps its buffer: the call was refused, or its input is invalid. -/
def Keeps (answer : Except NotAscii Result) : Prop :=
  answer = .error {} ∨ ∃ result, answer = .ok result ∧ result.outcome = .invalidInput

theorem keeps_or_writes (answer : Except NotAscii Result) :
    Keeps answer ∨ ∃ result, answer = .ok result ∧ result.outcome ≠ .invalidInput := by
  rcases answer with ⟨⟩ | result
  · exact .inl (.inl rfl)
  · by_cases houtcome : result.outcome = .invalidInput
    · exact .inl (.inr ⟨result, rfl, houtcome⟩)
    · exact .inr ⟨result, rfl, houtcome⟩

theorem not_keeps_ok {result : Result} (h : result.outcome ≠ .invalidInput) :
    ¬ Keeps (.ok result) := by
  rintro (hrefused | ⟨result', hresult, hinvalid⟩)
  · cases hrefused
  · cases hresult
    exact h hinvalid

namespace Call

/-- The bytes that the call laid over the beginning of its buffer: the text and a closing zero,
but none after a refusal or invalid input. -/
def laid (call : Call) : List UInt8 :=
  match call.answer with
  | .error _ => []
  | .ok result => if result.outcome = .invalidInput then [] else bytesOf result.text ++ [0]

/-- The call turned one buffer into another: it kept the buffer if it was refused or its input
invalid, and laid its text and a closing zero over the beginning otherwise. -/
structure Leaves (call : Call) (before after : List UInt8) : Prop where
  buffer : call.buffer = some after
  kept : Keeps call.answer → after = before
  stamped : ∀ result, call.answer = .ok result → result.outcome ≠ .invalidInput →
    IsAscii result.text ∧ result.text.length < before.length ∧ after = stamp result.text before

variable {call : Call} {before after : List UInt8}

/-- A call that was refused or whose input is invalid leaves the buffer that it keeps. -/
theorem leaves_of_keeps (hbuffer : call.buffer = some before) (hkeeps : Keeps call.answer) :
    call.Leaves before before := by
  refine ⟨hbuffer, fun _ => rfl, ?_⟩
  intro result hresult houtcome
  rw [hresult] at hkeeps
  exact absurd hkeeps (not_keeps_ok houtcome)

/-- Any other call leaves the buffer with its text. -/
theorem leaves_of_stamped {result : Result}
    (hbuffer : call.buffer = some (stamp result.text before))
    (hanswer : call.answer = .ok result) (houtcome : result.outcome ≠ .invalidInput)
    (hascii : IsAscii result.text) (hlt : result.text.length < before.length) :
    call.Leaves before (stamp result.text before) := by
  refine ⟨hbuffer, ?_, ?_⟩
  · intro hkeeps
    rw [hanswer] at hkeeps
    exact absurd hkeeps (not_keeps_ok houtcome)
  · intro result' hresult' _
    cases hresult'.symm.trans hanswer
    exact ⟨hascii, hlt, rfl⟩

theorem Leaves.length_eq (h : call.Leaves before after) : after.length = before.length := by
  rcases keeps_or_writes call.answer with hkeeps | ⟨result, hanswer, houtcome⟩
  · rw [h.kept hkeeps]
  · obtain ⟨-, hlt, rfl⟩ := h.stamped result hanswer houtcome
    exact length_stamp hlt

/-- Each byte is one that was laid or one from before. -/
theorem Leaves.getElem?_eq (h : call.Leaves before after) (p : Nat) :
    after[p]? = call.laid[p]?.or before[p]? := by
  rcases keeps_or_writes call.answer with hkeeps | ⟨result, hanswer, houtcome⟩
  · have hlaid : call.laid = [] := by
      rcases hkeeps with hanswer | ⟨result, hanswer, houtcome⟩
      · simp only [laid, hanswer]
      · simp only [laid, hanswer, if_pos houtcome]
    rw [h.kept hkeeps, hlaid, List.getElem?_nil, Option.none_or]
  · obtain ⟨-, -, rfl⟩ := h.stamped result hanswer houtcome
    simp only [laid, hanswer, if_neg houtcome]
    exact getElem?_stamp _ _ p

/-! What is to be had of a call as a text is decided by how it ended. -/

variable {result : Result}

theorem asText_of_refused (h : call.answer = .error {}) : call.asText = .error .notAscii := by
  rw [asText, h]

theorem asText_of_success (h : call.answer = .ok result) (houtcome : result.outcome = .success) :
    call.asText = .ok result.text := by
  obtain ⟨verdict, text, listed⟩ := result
  cases verdict with
  | success =>
    rw [asText, h]
    rfl
  | invalidInput | capacityExhausted | noStatement => cases houtcome

theorem asText_of_ne (h : call.answer = .ok result) (houtcome : result.outcome ≠ .success) :
    ∃ diagnostic, result.error = some diagnostic
      ∧ call.asText = .error (.reported diagnostic) := by
  obtain ⟨verdict, text, listed⟩ := result
  cases verdict with
  | success => exact absurd rfl houtcome
  | invalidInput | capacityExhausted | noStatement =>
    refine ⟨_, rfl, ?_⟩
    rw [asText, h]
    rfl

end Call

namespace RuleTable

variable {table : RuleTable}

/-- A draft is for the caller only if it was not refused and its input not invalid; the caller
then receives the text that is answered. -/
theorem draft_output (table : RuleTable) (site : Site) {sink : Sink} (h : sink.Holds "") :
    ((table.draft site sink).output = none ∧ Keeps (table.draft site sink).answer)
    ∨ ∃ result final, (table.draft site sink).answer = .ok result
      ∧ result.outcome ≠ .invalidInput
      ∧ (table.draft site sink).output = some final
      ∧ final.Holds result.text ∧ final.capacity = sink.capacity := by
  rcases hrule : table.rule? site.instruction.mnemonic with - | rule
  · simp only [draft, hrule]
    refine .inr ⟨_, sink, rfl, nofun, rfl, ?_, rfl⟩
    rw [h.text_eq]
    exact h
  -- Whatever stops the writing, the sink holds the text up to there.
  obtain ⟨text, hfinal, hcapacity⟩ := h.emit (rule.statement site)
  have hinto : (rule.write site).into sink = sink.emit (rule.statement site) :=
    rule.writes_write site sink
  rcases hemit : sink.emit (rule.statement site) with
    ⟨final, - | ⟨- | ⟨requested, remaining⟩⟩ | fault⟩ <;>
    rw [hemit] at hinto hfinal hcapacity <;> simp only [draft, hrule, hinto]
  · refine .inr ⟨_, final, rfl, nofun, rfl, ?_, hcapacity⟩
    rw [hfinal.text_eq]
    exact hfinal
  · exact .inl ⟨trivial, .inl rfl⟩
  · refine .inr ⟨_, final, rfl, nofun, rfl, ?_, hcapacity⟩
    rw [hfinal.text_eq]
    exact hfinal
  · exact .inl ⟨trivial, .inr ⟨_, rfl, rfl⟩⟩

/-- A call keeps the buffer, or lays its text and a closing zero over the beginning. -/
theorem call_leaves (table : RuleTable) (request : Request) (before : List UInt8) :
    ∃ after, (table.call request (some before)).Leaves before after := by
  -- A request that is not valid is refused before the buffer is looked at; a valid one is drafted
  -- in a sink of its own.
  by_cases hvalid : ∃ site capacity, request.Valid before.length site capacity
  · obtain ⟨site, capacity, hvalid⟩ := hvalid
    have hcall := table.call_of_valid hvalid
    rcases table.draft_output site (Sink.holds_blank hvalid.positive) with
      ⟨houtput, hkeeps⟩ | ⟨result, final, hanswer, houtcome, houtput, hfinal, hcapacity⟩
    · simp only [Draft.deliverTo, houtput, Option.elim_none] at hcall
      rw [hcall]
      exact ⟨before, Call.leaves_of_keeps rfl hkeeps⟩
    · simp only [Draft.deliverTo, houtput, Option.elim_some, hfinal.deliverTo] at hcall
      -- What the sink holds fits into its capacity, and that into the buffer.
      have hlt : result.text.length < before.length := by
        have hroom := hfinal.length_lt
        rw [hcapacity] at hroom
        exact Nat.lt_of_lt_of_le hroom hvalid.bounded
      rw [hcall]
      exact ⟨stamp result.text before,
        Call.leaves_of_stamped rfl hanswer houtcome hfinal.ascii hlt⟩
  · obtain ⟨fault, listed, hcall⟩ :=
      table.call_of_not_valid fun site capacity h => hvalid ⟨site, capacity, h⟩
    rw [hcall]
    exact ⟨before, Call.leaves_of_keeps rfl (.inr ⟨_, rfl, rfl⟩)⟩

end RuleTable

/-! ### What many calls do -/

/-- The buffer as the last of the calls left it. -/
def leftBy (buffer : Option (List UInt8)) (calls : List Call) : Option (List UInt8) :=
  (calls.getLast?.map Call.buffer).getD buffer

theorem leftBy_cons (buffer : Option (List UInt8)) (call : Call) (calls : List Call) :
    leftBy buffer (call :: calls) = leftBy call.buffer calls := by
  rcases hlast : calls.getLast? with - | last <;> simp [leftBy, List.getLast?_cons, hlast]

theorem leftBy_take_succ {buffer : Option (List UInt8)} {calls : List Call} {i : Nat} {call : Call}
    (h : calls[i]? = some call) : leftBy buffer (calls.take (i + 1)) = call.buffer := by
  rw [List.take_add_one, h]
  simp [leftBy]

/-- The byte that the last call to cover a position laid there. -/
def lastLaid (calls : List Call) (p : Nat) : Option UInt8 :=
  (calls.filterMap fun call => call.laid[p]?).getLast?

theorem lastLaid_cons (call : Call) (calls : List Call) (p : Nat) :
    lastLaid (call :: calls) p = (lastLaid calls p).or call.laid[p]? := by
  rcases hlaid : call.laid[p]? with - | byte
  · simp only [lastLaid, List.filterMap_cons, hlaid, Option.or_none]
  · rcases hlast : lastLaid calls p with - | last <;>
      simp only [lastLaid] at hlast <;>
      simp [lastLaid, hlaid, List.getLast?_cons, hlast]

namespace RuleTable

variable {table : RuleTable}

@[simp] theorem length_session (buffer : Option (List UInt8)) (requests : List Request) :
    (table.session buffer requests).length = requests.length := by
  induction requests generalizing buffer with
  | nil => rfl
  | cons request requests ih => simp only [session, List.length_cons, ih]

/-- A call of a session is a call with the buffer that those before it left. -/
theorem session_getElem? (buffer : Option (List UInt8)) (requests : List Request) (i : Nat) :
    (table.session buffer requests)[i]? = requests[i]?.map fun request =>
      table.call request (leftBy buffer ((table.session buffer requests).take i)) := by
  induction requests generalizing buffer i with
  | nil => rfl
  | cons request requests ih =>
    rcases i with - | i
    · rfl
    · simp only [session, List.getElem?_cons_succ, List.take_succ_cons, leftBy_cons, ih]

/-- After any number of calls the buffer has its size, and each byte is what the last call that
covered it laid there, or what was there at first. -/
theorem leftBy_session (table : RuleTable) (initial : List UInt8) (requests : List Request) :
    ∃ left, leftBy (some initial) (table.session (some initial) requests) = some left
      ∧ left.length = initial.length
      ∧ ∀ p, left[p]? = (lastLaid (table.session (some initial) requests) p).or initial[p]? := by
  induction requests generalizing initial with
  | nil => exact ⟨initial, rfl, rfl, fun p => rfl⟩
  | cons request requests ih =>
    -- The induction is on the requests, with the buffer that the first call leaves as the next
    -- initial one.
    obtain ⟨after, hafter⟩ := table.call_leaves request initial
    obtain ⟨left, hleft, hlength, hbytes⟩ := ih after
    refine ⟨left, ?_, hlength.trans hafter.length_eq, ?_⟩
    · simp only [session, leftBy_cons, hafter.buffer, hleft]
    · intro p
      simp only [session, lastLaid_cons, hafter.buffer, hbytes, hafter.getElem?_eq, Option.or_assoc]

/-- A session can be ended early. -/
theorem take_session (buffer : Option (List UInt8)) (requests : List Request) (i : Nat) :
    (table.session buffer requests).take i = table.session buffer (requests.take i) := by
  induction requests generalizing buffer i with
  | nil => simp only [session, List.take_nil]
  | cons request requests ih =>
    rcases i with - | i
    · rfl
    · simp only [session, List.take_succ_cons, ih]

/-! ### A call on its own -/

/-- The answer of a call is the same on a buffer of zeros. -/
theorem call_blank (table : RuleTable) (request : Request) {buffer : List UInt8} {size : Nat}
    (h : buffer.length = size) :
    (table.call request (some buffer)).answer
        = (table.call request (some (List.replicate size 0))).answer
    ∧ (table.call request (some buffer)).rows
        = (table.call request (some (List.replicate size 0))).rows :=
  table.call_congr request request rfl rfl rfl (by rw [List.length_replicate, h])

/-- The text of a call is the same without a buffer, in the capacity that the call uses. -/
theorem glossText_eq_asText (request : Request) {buffer : List UInt8} {capacity : Nat}
    (heffective : request.capacity.getD buffer.length = capacity) (hpositive : 0 < capacity)
    (hbounded : capacity ≤ buffer.length) :
    table.glossText { request with capacity := some capacity }
      = (table.call request (some buffer)).asText := by
  have hmax : (max (capacity : Int) 1).toNat = capacity := by omega
  -- The new buffer is as large as the capacity, so the capacity passes the check of either call.
  have hanswer : (table.call { request with capacity := some (capacity : Int) }
      (some (List.replicate (max (capacity : Int) 1).toNat 0))).answer
        = (table.call request (some buffer)).answer := by
    refine (table.call_congr { request with capacity := some (capacity : Int) } request
      rfl rfl rfl ?_).1
    rw [Capacity.of_eq_ok heffective hpositive hbounded,
      Capacity.of_eq_ok rfl hpositive (by simp only [List.length_replicate, hmax, Nat.le_refl])]
    rfl
  simp only [glossText, Call.asText, Option.getD_some, hanswer]

/-! ### A session as a whole -/

/-- **A buffer can be used again.**  In a session of any calls on one buffer, each call keeps the
size of the buffer and changes only the bytes that it is to change, each byte is what the last
call that covered it laid there or what was there at first, and each call answers what it would
answer on its own. What is to be had as a text instead, in the capacity that the call uses, is the
text of the call if it was a success; otherwise it is refused like the call or fails with its
error. -/
theorem session_spec (table : RuleTable) (initial : List UInt8) (requests : List Request) :
    (table.session (some initial) requests).length = requests.length
    ∧ ∀ i request, requests[i]? = some request → ∃ call before after,
      (table.session (some initial) requests)[i]? = some call
      ∧ leftBy (some initial) ((table.session (some initial) requests).take i) = some before
      ∧ call.Leaves before after
      ∧ after.length = initial.length
      ∧ (∀ p, after[p]?
        = (lastLaid ((table.session (some initial) requests).take (i + 1)) p).or initial[p]?)
      ∧ call.answer = (table.call request (some (List.replicate initial.length 0))).answer
      ∧ call.rows = (table.call request (some (List.replicate initial.length 0))).rows
      ∧ ∀ capacity : Nat, request.capacity.getD initial.length = capacity → 0 < capacity →
        capacity ≤ initial.length →
        (call.answer = .error {} →
          table.glossText { request with capacity := some capacity } = .error .notAscii)
        ∧ ∀ result, call.answer = .ok result →
          (result.outcome = .success →
            table.glossText { request with capacity := some capacity } = .ok result.text)
          ∧ (result.outcome ≠ .success → ∃ diagnostic, result.error = some diagnostic
            ∧ table.glossText { request with capacity := some capacity }
              = .error (.reported diagnostic)) := by
  refine ⟨length_session _ _, ?_⟩
  intro i request hrequest
  -- The calls before this one leave the buffer that it finds; its size is all that the answer
  -- depends on.
  obtain ⟨before, hbefore, hlength, -⟩ := table.leftBy_session initial (requests.take i)
  obtain ⟨after, hafter⟩ := table.call_leaves request before
  have hcall : (table.session (some initial) requests)[i]?
      = some (table.call request (some before)) := by
    rw [session_getElem?, hrequest, take_session, hbefore]
    rfl
  obtain ⟨hanswer, hrows⟩ := table.call_blank request hlength
  refine ⟨_, before, after, hcall, by rw [take_session, hbefore], hafter,
    hafter.length_eq.trans hlength, ?_, hanswer, hrows, ?_⟩
  · -- The bytes are those that the session leaves when it is ended behind this call.
    obtain ⟨after', hafter', -, hbytes⟩ :=
      table.leftBy_session initial (requests.take (i + 1))
    rw [← take_session, leftBy_take_succ hcall, hafter.buffer] at hafter'
    cases hafter'
    rw [take_session]
    exact hbytes
  · intro capacity heffective hpositive hbounded
    rw [← hlength] at heffective hbounded
    rw [glossText_eq_asText request heffective hpositive hbounded]
    exact ⟨Call.asText_of_refused, fun result hresult =>
      ⟨Call.asText_of_success hresult, Call.asText_of_ne hresult⟩⟩

/-- A move that fits, one whose source is missing, and one that has room for its destination
only. -/
def threeMoves : List Request :=
  [⟨some ⟨.mov, 2, none, 0⟩, some [.ofRegister 37, .ofRegister 40], 0, none⟩,
    ⟨some ⟨.mov, 2, none, 0⟩, some [.ofRegister 37], 0, none⟩,
    ⟨some ⟨.mov, 2, none, 0⟩, some [.ofRegister 40, .ofRegister 37], 0, some 8⟩]

/-- The last of three moves lays a shorter text over the first and leaves the rest of it. As texts
the first can be had and the last fails, for what is cut off first is the joint. -/
theorem session_moves :
    ∃ call after, (standard.session (some (List.replicate 24 0xff)) threeMoves)[2]? = some call
      ∧ call.buffer = some after ∧ after.length = 24
      ∧ after[7]? = some 0x00 ∧ after[8]? = some 0x3d ∧ after[23]? = some 0xff
      ∧ standard.glossText
          ⟨some ⟨.mov, 2, none, 0⟩, some [.ofRegister 37, .ofRegister 40], 0, some 24⟩
        = .ok "(i32)ax = (i32)bx;"
      ∧ standard.glossText
          ⟨some ⟨.mov, 2, none, 0⟩, some [.ofRegister 40, .ofRegister 37], 0, some 8⟩
        = .error (.reported (.of (.noRoom 3 0) { mnemonic := some "mov", address := some 0 })) := by
  have hspec := (session_spec standard (List.replicate 24 0xff) threeMoves).2
  obtain ⟨first, -, -, hfirst, -, -, -, -, -, -, htold⟩ := hspec 0 _ rfl
  obtain ⟨call, before, after, hcall, -, hleaves, hlength, hbytes, -, -, hreported⟩ := hspec 2 _ rfl
  refine ⟨call, after, hcall, hleaves.buffer, hlength, (hbytes 7).trans rfl, (hbytes 8).trans rfl,
    (hbytes 23).trans rfl, ?_, ?_⟩
  · cases hfirst
    exact ((htold 24 rfl (by decide) (by decide)).2 _ rfl).1 rfl
  · cases hcall
    obtain ⟨diagnostic, herror, htext⟩ :=
      ((hreported 8 rfl (by decide) (by decide)).2 _ rfl).2 nofun
    cases herror
    exact htext

end RuleTable

end X86Gloss
