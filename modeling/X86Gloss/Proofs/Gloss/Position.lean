/-
X86Gloss/Proofs/Gloss/Position.lean

A statement does not depend on where its instruction stands, apart from what it says about other
places. Relative constants lead to the same target when the instruction moves one way and they move
the other (`Operand.emission_shift`); and since numbers are shown as 64-bit words, turns of 2^64 do
not show in an address, a constant or a displacement (`Operand.emission_wind`).

Either change leaves what templates see of the operands (`Site.look?`), and so the statement
(`Rule.Resembles.statement_eq`). The call may then report another address, but its outcome, its text
and the buffer are the same, also if the statement does not fit or has a fault
(`RuleTable.call_matches`). `RuleTable.call_shift_and_wind` is the result for whole requests.
-/
import X86Gloss.Proofs.Gloss.Reading
import X86Gloss.Proofs.Text.Numeral

namespace X86Gloss

/-! ### Turns of a word -/

namespace Numeral

theorem word_add_turns (value turns : Int) : word (value + turns * 2 ^ 64) = word value :=
  word_inj.mpr (Int.add_mul_emod_self_right value turns (2 ^ 64))

theorem signedWord_add_turns (value turns : Int) :
    signedWord (value + turns * 2 ^ 64) = signedWord value :=
  signedWord_inj.mpr (Int.add_mul_emod_self_right value turns (2 ^ 64))

theorem unsigned_add_turns (value turns : Int) :
    unsigned (value + turns * 2 ^ 64) = unsigned value := by
  rw [unsigned, unsigned, word_add_turns]

theorem signedPieces_add_turns (value turns : Int) :
    signedPieces (value + turns * 2 ^ 64) = signedPieces value := by
  rw [signedPieces, signedPieces, signedWord_add_turns]

theorem hex_add_turns (value turns : Int) : hex (value + turns * 2 ^ 64) = hex value := by
  rw [hex, hex, word_add_turns]

end Numeral

/-! ### Operands elsewhere -/

namespace Immediate

/-- A relative constant that makes up for a move of its instruction. -/
def shift (distance : Int) (immediate : Immediate) : Immediate :=
  if immediate.isRelative then { immediate with value := immediate.value - distance }
  else immediate

/-- A constant with turns added. -/
def wind (turns : Int) (immediate : Immediate) : Immediate :=
  { immediate with value := immediate.value + turns * 2 ^ 64 }

theorem emission_shift (address distance : Int) (immediate : Immediate) :
    emission (address + distance) (immediate.shift distance) = emission address immediate := by
  by_cases hrelative : immediate.isRelative = true
  · have hsum : address + distance + (immediate.value - distance) = address + immediate.value := by
      omega
    rw [shift, if_pos hrelative, emission, emission, if_pos hrelative, if_pos hrelative, hsum]
  · rw [shift, if_neg hrelative, emission, emission, if_neg hrelative, if_neg hrelative]

theorem emission_wind (address turns valueTurns : Int) (immediate : Immediate) :
    emission (address + turns * 2 ^ 64) (immediate.wind valueTurns)
      = emission address immediate := by
  have hsum : address + turns * 2 ^ 64 + (immediate.value + valueTurns * 2 ^ 64)
      = address + immediate.value + (turns + valueTurns) * 2 ^ 64 := by
    omega
  simp only [emission, wind, hsum, Numeral.hex_add_turns, Numeral.signedPieces_add_turns,
    Numeral.unsigned_add_turns]

end Immediate

namespace Memory

/-- A place in memory with turns added to its displacement, if it has one. -/
def wind (turns : Int) (memory : Memory) : Memory :=
  { memory with displacement := memory.displacement.map (· + turns * 2 ^ 64) }

theorem offset_wind (turns : Int) (memory : Memory) :
    (memory.wind turns).offset = memory.offset := by
  obtain ⟨kind, segment, base, index, scale, displacement⟩ := memory
  rcases displacement with - | displacement
  · rfl
  · simp only [offset, wind, Option.map_some, Numeral.signedPieces_add_turns]

theorem emission_wind (turns : Int) (memory : Memory) :
    (memory.wind turns).emission = memory.emission := by
  have henclosed : ∀ opening, enclosed opening (memory.wind turns) = enclosed opening memory := by
    intro opening
    rw [enclosed, enclosed, offset_wind]
    rfl
  simp only [emission, henclosed]
  rfl

end Memory

namespace Operand

/-- An operand that makes up for a move of its instruction. -/
def shift (distance : Int) (operand : Operand) : Operand :=
  { operand with immediate := operand.immediate.map (Immediate.shift distance) }

/-- An operand with turns added to its constant and to its displacement, as far as it has them. -/
def wind (valueTurns displacementTurns : Int) (operand : Operand) : Operand :=
  { operand with
    memory := operand.memory.map (Memory.wind displacementTurns)
    immediate := operand.immediate.map (Immediate.wind valueTurns) }

theorem emission_shift (address distance : Int) (operand : Operand) :
    (operand.shift distance).emission (address + distance) = operand.emission address := by
  obtain ⟨kind, register, memory, immediate, pointer⟩ := operand
  cases kind with
  | register | memory | pointer => rfl
  | immediate =>
    rcases immediate with - | immediate
    · rfl
    · exact immediate.emission_shift address distance

/-- A target that was ahead lies behind when the instruction has moved past it. -/
example :
    (ofImmediate ⟨0x10, false, true⟩).shift 0x20 = ofImmediate ⟨-0x10, false, true⟩
    ∧ (ofImmediate ⟨0x10, false, true⟩).emission 0x400000 = .piece "0x400010"
    ∧ (ofImmediate ⟨-0x10, false, true⟩).emission 0x400020 = .piece "0x400010" := by
  decide +kernel

theorem emission_wind (address turns valueTurns displacementTurns : Int) (operand : Operand) :
    (operand.wind valueTurns displacementTurns).emission (address + turns * 2 ^ 64)
      = operand.emission address := by
  obtain ⟨kind, register, memory, immediate, pointer⟩ := operand
  cases kind with
  | register | pointer => rfl
  | memory =>
    rcases memory with - | memory
    · rfl
    · exact memory.emission_wind displacementTurns
  | immediate =>
    rcases immediate with - | immediate
    · rfl
    · exact immediate.emission_wind address turns valueTurns

end Operand

/-! ### Calls from elsewhere -/

/-- The calls come to the same outcome, text and buffer, or both are refused. -/
structure Call.Matches (first second : Call) : Prop where
  outcome : first.answer.map Result.outcome = second.answer.map Result.outcome
  text : first.answer.map Result.text = second.answer.map Result.text
  buffer : first.buffer = second.buffer

theorem Call.Matches.of_eq {first second : Call} (h : first = second) : first.Matches second :=
  h ▸ ⟨rfl, rfl, rfl⟩

namespace RuleTable

variable (table : RuleTable) {site other : Site}

/-- Sites with the same instruction and the same statements come to the same draft, but for the
address that is reported. -/
theorem draft_matches (hinstruction : site.instruction = other.instruction)
    (hstatement : ∀ rule : Rule, rule.statement site = rule.statement other) (sink : Sink) :
    (table.draft site sink).answer.map Result.outcome
        = (table.draft other sink).answer.map Result.outcome
      ∧ (table.draft site sink).answer.map Result.text
        = (table.draft other sink).answer.map Result.text
      ∧ (table.draft site sink).output = (table.draft other sink).output := by
  simp only [draft, ← hinstruction]
  -- The statement is the same, so it ends in the same way in the same sink.
  rcases table.rule? site.instruction.mnemonic with - | rule
  · exact ⟨rfl, rfl, rfl⟩
  · simp only [rule.writes_write site sink, rule.writes_write other sink, hstatement]
    split <;> exact ⟨rfl, rfl, rfl⟩

/-- Calls match if their sites have the same instruction and their operands look the same. -/
theorem call_matches (site other : Site) (hinstruction : site.instruction = other.instruction)
    (hlooks : ∀ index, site.look? index = other.look? index) (given : Option Int)
    (buffer : Option (List UInt8)) :
    (table.call (site.request given) buffer).Matches (table.call (other.request given) buffer) := by
  have hstatement : ∀ rule : Rule, rule.statement site = rule.statement other := by
    intro rule
    have hresembles : rule.Resembles site other :=
      ⟨congrArg Instruction.mnemonic hinstruction, congrArg Instruction.visible hinstruction,
        fun index _ => hlooks index⟩
    exact hresembles.statement_eq
  have hdraft := table.draft_matches hinstruction hstatement
  -- That one of the sites has no operand shows at the first index, so both are refused for that or
  -- neither.
  have hfirst := hlooks 0
  obtain ⟨instruction, operands, address⟩ := site
  obtain ⟨instruction', operands', address'⟩ := other
  cases hinstruction
  rcases operands with - | ⟨operand, operands⟩ <;> rcases operands' with - | ⟨operand', operands'⟩
  · exact .of_eq rfl
  · cases hfirst
  · cases hfirst
  by_cases hzero : instruction.operandCount = 0
  · refine .of_eq ?_
    simp only [call, Site.request, Request.check, if_pos hzero]
  simp only [call, Site.request, Request.check, if_neg hzero]
  rcases buffer with - | buffer
  · exact ⟨rfl, rfl, rfl⟩
  rcases hcapacity : Capacity.of buffer.length given with fault | capacity
  · simp only [hcapacity]
    exact ⟨rfl, rfl, rfl⟩
  · simp only [hcapacity, perform, Job.sink]
    obtain ⟨houtcome, htext, houtput⟩ := hdraft (Sink.blank capacity.1 capacity.2.1)
    exact ⟨houtcome, htext, by rw [Draft.deliverTo, Draft.deliverTo, houtput]⟩

end RuleTable

namespace Request

/-- The request for an instruction that stands at a distance, its relative constants made up. -/
def shift (distance : Int) (request : Request) : Request :=
  { request with
    address := request.address + distance
    operands := request.operands.map (List.map (Operand.shift distance)) }

/-- The request with turns added to the address, and to the constant and the displacement of each
operand; operands are told apart by their index. -/
def wind (turns : Int) (valueTurns displacementTurns : Nat → Int) (request : Request) : Request :=
  { request with
    address := request.address + turns * 2 ^ 64
    operands := request.operands.map (List.mapIdx fun index operand =>
      operand.wind (valueTurns index) (displacementTurns index)) }

end Request

namespace RuleTable

/-- A request may be changed in any way that its operands do not show. -/
theorem call_matches_of_looks (table : RuleTable) (request : Request) (address : Int)
    (change : List Operand → List Operand)
    (hlooks : ∀ instruction operands index,
      Site.look? ⟨instruction, change operands, address⟩ index
        = Site.look? ⟨instruction, operands, request.address⟩ index)
    (buffer : Option (List UInt8)) :
    (table.call { request with address, operands := request.operands.map change } buffer).Matches
      (table.call request buffer) := by
  obtain ⟨instruction, operands, address', given⟩ := request
  rcases instruction with - | instruction
  · exact .of_eq rfl
  rcases operands with - | operands
  · exact .of_eq rfl
  exact table.call_matches ⟨instruction, change operands, address⟩
    ⟨instruction, operands, address'⟩ rfl (hlooks instruction operands) given buffer

/-- **A statement does not depend on the place of its instruction.**  Move an instruction by any
distance and take the distance off its relative constants, or add turns of 2^64 to the address, to
any constants and to any displacements that are there: the call has the same outcome, the same text,
and leaves the same buffer, whatever the table, the request and the buffer. -/
theorem call_shift_and_wind (table : RuleTable) (request : Request)
    (buffer : Option (List UInt8)) :
    (∀ distance : Int,
      (table.call (request.shift distance) buffer).Matches (table.call request buffer))
    ∧ ∀ (turns : Int) (valueTurns displacementTurns : Nat → Int),
      (table.call (request.wind turns valueTurns displacementTurns) buffer).Matches
        (table.call request buffer) := by
  constructor
  · intro distance
    refine table.call_matches_of_looks request _ _ ?_ buffer
    -- It is enough that every operand looks the same where it now stands.
    intro instruction operands index
    rw [Site.look?, Site.look?, List.getElem?_map, Option.map_map]
    refine congrArg (Option.map · operands[index]?) (funext fun operand => ?_)
    exact congrArg (Prod.mk operand.kind) (operand.emission_shift request.address distance)
  · intro turns valueTurns displacementTurns
    refine table.call_matches_of_looks request _ _ ?_ buffer
    intro instruction operands index
    rw [Site.look?, Site.look?, List.getElem?_mapIdx, Option.map_map]
    refine congrArg (Option.map · operands[index]?) (funext fun operand => ?_)
    exact congrArg (Prod.mk operand.kind) (operand.emission_wind request.address turns _ _)

end RuleTable

end X86Gloss
