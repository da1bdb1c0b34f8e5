/-
X86Gloss/Proofs/Gloss/Request.lean

Which requests pass their checks, and what the others come to. `Request.Valid` says that a
request is complete and asks for a capacity that the buffer has; only the size of the buffer
counts. A call then comes to the draft of its site (`call_of_valid`). Any other request is
answered as invalid input, and the buffer stays as it was (`call_of_not_valid`). What a buffer
holds is never looked at (`call_congr`).
-/
import X86Gloss.Gloss

namespace X86Gloss

theorem Capacity.of_eq_ok {size capacity : Nat} {given : Option Int}
    (h : given.getD size = capacity) (hpositive : 0 < capacity) (hbounded : capacity ≤ size) :
    Capacity.of size given = .ok ⟨capacity, hpositive, hbounded⟩ := by
  have hwanted : 0 < given.getD size ∧ given.getD size ≤ size := by omega
  have hnat : (given.getD size).toNat = capacity := by omega
  subst hnat
  simp only [Capacity.of, dif_pos hwanted]

namespace Request

/-- The request passes every check for a buffer of some size: it asks to tell a site, in so many
bytes of the buffer. -/
structure Valid (request : Request) (size : Nat) (site : Site) (capacity : Nat) : Prop where
  instruction : request.instruction = some site.instruction
  operands : request.operands = some site.operands
  address : request.address = site.address
  present : site.operands ≠ []
  counted : site.instruction.operandCount ≠ 0
  effective : request.capacity.getD size = capacity
  positive : 0 < capacity
  bounded : capacity ≤ size

variable {request : Request} {buffer : List UInt8} {site : Site} {capacity : Nat}

theorem Valid.check_eq (h : request.Valid buffer.length site capacity) :
    request.check (some buffer) = .ok ⟨site, buffer, ⟨capacity, h.positive, h.bounded⟩⟩ := by
  have hcapacity := Capacity.of_eq_ok h.effective h.positive h.bounded
  obtain ⟨operand, rest, hcons⟩ := List.exists_cons_of_ne_nil h.present
  simp only [check, h.instruction, h.operands, hcons, if_neg h.counted, hcapacity, h.address]
  rw [← hcons]

/-- A request that passes the checks is valid. -/
theorem valid_of_check {job : Job} (h : request.check (some buffer) = .ok job) :
    request.Valid buffer.length job.site job.capacity.1 := by
  obtain ⟨instruction, operands, address, given⟩ := request
  -- The checks one after the other; each that fails contradicts the job.
  rcases instruction with - | instruction
  · cases h
  rcases operands with - | ⟨- | ⟨operand, operands⟩⟩
  · cases h
  · cases h
  by_cases hcount : instruction.operandCount = 0
  · simp only [check, if_pos hcount] at h
    cases h
  by_cases hwanted : 0 < given.getD (buffer.length : Int)
      ∧ given.getD (buffer.length : Int) ≤ buffer.length
  · simp only [check, if_neg hcount, Capacity.of, dif_pos hwanted] at h
    cases h
    exact
      { instruction := rfl, operands := rfl, address := rfl
        present := List.cons_ne_nil _ _
        counted := hcount
        effective := (Int.toNat_of_nonneg (Int.le_of_lt hwanted.1)).symm
        positive := by simp only; omega
        bounded := by simp only; omega }
  · simp only [check, if_neg hcount, Capacity.of, dif_neg hwanted] at h
    cases h

/-- A request that passes the checks has a buffer, and is valid for its size. -/
theorem exists_valid_of_check {given : Option (List UInt8)} {job : Job}
    (h : request.check given = .ok job) :
    ∃ buffer, given = some buffer ∧ request.Valid buffer.length job.site job.capacity.1 := by
  -- Without a buffer the request fails, but only after the checks before that one.
  rcases given with - | buffer
  · obtain ⟨instruction, operands, address, capacity⟩ := request
    rcases instruction with - | instruction
    · cases h
    rcases operands with - | ⟨- | ⟨operand, operands⟩⟩
    · cases h
    · cases h
    by_cases hcount : instruction.operandCount = 0
    · simp only [check, if_pos hcount] at h
      cases h
    · simp only [check, if_neg hcount] at h
      cases h
  · exact ⟨buffer, rfl, valid_of_check h⟩

end Request

/-- The request to tell a site. -/
def Site.request (site : Site) (given : Option Int) : Request :=
  ⟨some site.instruction, some site.operands, site.address, given⟩

/-- The request to tell a site with something to tell uses the whole of any buffer. -/
theorem Site.valid_request {site : Site} (hpresent : site.operands ≠ [])
    (hcounted : site.instruction.operandCount ≠ 0) {size : Nat} (hpositive : 0 < size) :
    (site.request none).Valid (List.replicate size (0 : UInt8)).length site size where
  instruction := rfl
  operands := rfl
  address := rfl
  present := hpresent
  counted := hcounted
  effective := by simp only [request, Option.getD_none, List.length_replicate]
  positive := hpositive
  bounded := Nat.le_of_eq List.length_replicate.symm

namespace RuleTable

variable {table : RuleTable} {request : Request} {buffer : List UInt8}
variable {site : Site} {capacity : Nat}

/-- A request that fails a check is answered as invalid input. -/
theorem gloss_of_check_eq_error {given : Option (List UInt8)} {fault : InputFault}
    (h : request.check given = .error fault) :
    table.gloss request given = .ok
      { result :=
          { verdict := .invalidInput fault
            text := ""
            listed := request.instruction.map fun instruction => table.lists instruction.mnemonic }
        buffer := given
        rows := [] } := by
  rw [gloss, call, h]
  rfl

/-- A valid request comes to the draft of its site in a sink of its own. -/
theorem call_of_valid (h : request.Valid buffer.length site capacity) :
    table.call request (some buffer) =
      { answer := (table.draft site (Sink.blank capacity h.positive)).answer
        buffer := some ((table.draft site (Sink.blank capacity h.positive)).deliverTo buffer)
        rows := (table.draft site (Sink.blank capacity h.positive)).rows } := by
  rw [call, h.check_eq]
  rfl

/-- Any other request is invalid input, and the buffer stays as it was. -/
theorem call_of_not_valid (h : ∀ site capacity, ¬ request.Valid buffer.length site capacity) :
    ∃ fault listed, table.call request (some buffer)
      = ⟨.ok ⟨.invalidInput fault, "", listed⟩, some buffer, []⟩ := by
  rcases hcheck : request.check (some buffer) with fault | job
  · refine ⟨fault, request.instruction.map fun instruction => table.lists instruction.mnemonic, ?_⟩
    rw [call, hcheck]
  · exact absurd (Request.valid_of_check hcheck) (h _ _)

/-- Of a buffer and a capacity, an answer depends only on the bytes that may be used, or on why
there are none. -/
theorem call_congr (table : RuleTable) (first second : Request) {other : List UInt8}
    (hinstruction : first.instruction = second.instruction)
    (hoperands : first.operands = second.operands) (haddress : first.address = second.address)
    (hcapacity : (Capacity.of buffer.length first.capacity).map Subtype.val
      = (Capacity.of other.length second.capacity).map Subtype.val) :
    (table.call first (some buffer)).answer = (table.call second (some other)).answer
    ∧ (table.call first (some buffer)).rows = (table.call second (some other)).rows := by
  obtain ⟨instruction, operands, address, given⟩ := first
  obtain ⟨instruction, operands, address, given'⟩ := second
  cases hinstruction
  cases hoperands
  cases haddress
  rcases instruction with - | instruction
  · exact ⟨rfl, rfl⟩
  rcases operands with - | ⟨- | ⟨operand, operands⟩⟩
  · exact ⟨rfl, rfl⟩
  · exact ⟨rfl, rfl⟩
  by_cases hcount : instruction.operandCount = 0
  · constructor <;> simp only [call, Request.check, if_pos hcount]
  simp only [call, Request.check, if_neg hcount]
  rcases hfirst : Capacity.of buffer.length given with fault | ⟨capacity, hcapable⟩ <;>
    rcases hsecond : Capacity.of other.length given' with fault' | ⟨capacity', hcapable'⟩ <;>
    simp only [hfirst, hsecond] at hcapacity <;> cases hcapacity
  · exact ⟨rfl, rfl⟩
  · exact ⟨rfl, rfl⟩

end RuleTable

end X86Gloss
