/-
X86Gloss/Gloss.lean

Telling one instruction as a statement in a caller's buffer.

A request may lack its instruction, its operands or its buffer, and may ask for a capacity
out of bounds; `Request.check` refuses such a request before anything is written. A request
that passes is told in a sink of its own, with the capacity that was asked for: `draft` says
what that comes to without a look at the caller's buffer, which receives the contents of the
sink only afterwards, and not at all if an operand turned out to have no text.

A rule may hold a text that is not ASCII. No buffer can take it, and the whole call is then
refused (`NotAscii`). A refused call ends neither the session nor the use of the buffer:
`session` goes on with the next request, while `glossAll` gives the replies up to the first
refusal or nothing.
-/
import X86Gloss.Sink
import X86Gloss.Statement.Writing

namespace X86Gloss

/-! ### Faults of a request -/

/-- What is wrong with a request. -/
inductive InputFault where
  /-- There is no instruction. -/
  | noInstruction
  /-- There is no operand, or no list of them. -/
  | noOperands
  /-- The instruction counts no operand. -/
  | noOperandCount (mnemonic : Mnemonic)
  /-- The buffer is missing or cannot be used with the capacity. -/
  | buffer (fault : BufferFault)
  /-- An operand that the statement needs has no text. -/
  | operand (fault : OperandFault)
deriving DecidableEq

namespace InputFault

/-- What the fault is reported as. -/
def problem : InputFault → Problem
  | .noInstruction => .input "Instruction is missing"
  | .noOperands => .input "Operand list is missing or empty"
  | .noOperandCount _ => .input "Instruction has no operands"
  | .buffer fault => fault.problem
  | .operand fault => fault.problem

/-- Where the fault arose. -/
def context : InputFault → Context
  | .noOperandCount mnemonic => { mnemonic := some mnemonic.text }
  | .operand fault => fault.context
  | _ => {}

end InputFault

/-! ### Results -/

/-- How a call can end. -/
inductive Outcome where
  | success
  | invalidInput
  | capacityExhausted
  | noStatement
deriving DecidableEq

/-- The outcome as data spells it. -/
def Outcome.name : Outcome → String
  | .success => "success"
  | .invalidInput => "invalid_input"
  | .capacityExhausted => "capacity_exhausted"
  | .noStatement => "no_translation"

/-- How a call ended, with what there is to report. -/
inductive Verdict where
  | success
  | invalidInput (fault : InputFault)
  | capacityExhausted (mnemonic : Mnemonic) (address : Int) (requested remaining : Nat)
  | noStatement (mnemonic : Mnemonic) (address : Int)
deriving DecidableEq

namespace Verdict

/-- The verdict without what there is to report. -/
def outcome : Verdict → Outcome
  | .success => .success
  | .invalidInput _ => .invalidInput
  | .capacityExhausted .. => .capacityExhausted
  | .noStatement .. => .noStatement

/-- The context of a problem with an instruction as a whole. -/
def place (mnemonic : Mnemonic) (address : Int) : Context :=
  { mnemonic := some mnemonic.text, address := some address }

/-- The report of a verdict that is no success. -/
def error : Verdict → Option Diagnostic
  | .success => none
  | .invalidInput fault => some (.of fault.problem fault.context)
  | .capacityExhausted mnemonic address requested remaining =>
    some (.of (.noRoom requested remaining) (place mnemonic address))
  | .noStatement mnemonic address =>
    some (.of (.noStatement mnemonic.text) (place mnemonic address))

end Verdict

/-- What a call answers. `text` is what was written; it is the whole statement only after
success. `listed` is unknown when there was no instruction. -/
structure Result where
  verdict : Verdict
  text : String
  listed : Option Bool
deriving DecidableEq

namespace Result

/-- How the call ended. -/
def outcome (result : Result) : Outcome := result.verdict.outcome

/-- Whether the text is the whole statement. -/
def ok (result : Result) : Bool := result.outcome = .success

/-- What there is to report. -/
def error (result : Result) : Option Diagnostic := result.verdict.error

end Result

/-- A call was refused because a rule holds a text that is not ASCII. -/
structure NotAscii where
deriving DecidableEq

/-- The answer of a call, the caller's buffer after it, and the rows that it logged. -/
structure Reply where
  result : Result
  buffer : Option (List UInt8)
  rows : List Row
deriving DecidableEq

/-- What a call leaves, be it answered or refused. -/
structure Call where
  answer : Except NotAscii Result
  buffer : Option (List UInt8)
  rows : List Row

/-- The reply of a call that was answered. -/
def Call.reply (call : Call) : Except NotAscii Reply :=
  call.answer.map fun result => ⟨result, call.buffer, call.rows⟩

/-- Why a statement could not be had as a text. -/
inductive TextFailure where
  | notAscii
  | reported (diagnostic : Diagnostic)
deriving DecidableEq

/-- The text of a call, unless it was refused or has something to report. -/
def Call.asText (call : Call) : Except TextFailure String :=
  match call.answer with
  | .error _ => .error .notAscii
  | .ok result =>
    match result.error with
    | some diagnostic => .error (.reported diagnostic)
    | none => .ok result.text

/-! ### Requests -/

/-- The arguments of a call, the buffer apart. -/
structure Request where
  instruction : Option Instruction
  operands : Option (List Operand)
  address : Int
  capacity : Option Int
deriving DecidableEq

/-- What passed the checks: something to tell, a buffer for it, and how much of the buffer may be
used. -/
structure Job where
  site : Site
  buffer : List UInt8
  capacity : Capacity buffer.length

/-- A sink of the size that a job asks for. -/
def Job.sink (job : Job) : Sink := Sink.blank job.capacity.1 job.capacity.2.1

/-- The job of a request with a buffer. Of several faults the first counts: instruction,
operands, operand count, buffer, capacity. -/
def Request.check (request : Request) (buffer : Option (List UInt8)) : Except InputFault Job :=
  match request.instruction, request.operands, buffer with
  | none, _, _ => .error .noInstruction
  | some _, none, _ => .error .noOperands
  | some _, some [], _ => .error .noOperands
  | some instruction, some (operand :: operands), buffer =>
    if instruction.operandCount = 0 then .error (.noOperandCount instruction.mnemonic)
    else
      match buffer with
      | none => .error (.buffer .missing)
      | some buffer =>
        match Capacity.of buffer.length request.capacity with
        | .error fault => .error (.buffer fault)
        | .ok capacity =>
          .ok ⟨⟨instruction, operand :: operands, request.address⟩, buffer, capacity⟩

/-! ### Glossing -/

/-- The row that tells of a mnemonic without a rule. -/
def noRuleRow (site : Site) : Row :=
  ⟨.debug, .statements, "No translation for " ++ site.instruction.mnemonic.text ++ " at "
    ++ Numeral.lowerHex site.address⟩

/-- The row that tells of a statement that did not fit. -/
def noRoomRow (site : Site) (capacity : Nat) : Row :=
  ⟨.debug, .statements, "Translation of " ++ site.instruction.mnemonic.text ++ " at "
    ++ Numeral.lowerHex site.address ++ " exceeded " ++ capacity.repr ++ " byte buffer"⟩

/-- What telling a site in a sink of its own comes to: the answer, the sink whose contents are
for the caller, if they are, and the rows. -/
structure Draft where
  answer : Except NotAscii Result
  output : Option Sink
  rows : List Row

/-- The caller's buffer with the contents that are for it. -/
def Draft.deliverTo (draft : Draft) (buffer : List UInt8) : List UInt8 :=
  draft.output.elim buffer fun sink => sink.deliverTo buffer

namespace RuleTable

/-- Tells a site in a sink. -/
def draft (table : RuleTable) (site : Site) (sink : Sink) : Draft :=
  let mnemonic := site.instruction.mnemonic
  match table.rule? mnemonic with
  | none =>
    { answer := .ok ⟨.noStatement mnemonic site.address, sink.text, some false⟩
      output := some sink
      rows := [noRuleRow site] }
  | some rule =>
    match (rule.write site).into sink with
    | (final, none) => ⟨.ok ⟨.success, final.text, some true⟩, some final, []⟩
    | (final, some (.refused (.noRoom requested remaining))) =>
      { answer :=
          .ok ⟨.capacityExhausted mnemonic site.address requested remaining, final.text, some true⟩
        output := some final
        rows := [noRoomRow site sink.capacity] }
    | (_, some (.fault fault)) =>
      ⟨.ok ⟨.invalidInput (.operand fault), "", some true⟩, none, []⟩
    | (_, some (.refused .notAscii)) => ⟨.error {}, none, []⟩

/-- What becomes of a job. -/
def perform (table : RuleTable) (job : Job) : Call :=
  let draft := table.draft job.site job.sink
  ⟨draft.answer, some (draft.deliverTo job.buffer), draft.rows⟩

/-- Tells an instruction as a statement in a caller's buffer. -/
def call (table : RuleTable) (request : Request) (buffer : Option (List UInt8)) : Call :=
  match request.check buffer with
  | .error fault =>
    let known := request.instruction.map fun instruction => table.lists instruction.mnemonic
    ⟨.ok ⟨.invalidInput fault, "", known⟩, buffer, []⟩
  | .ok job => table.perform job

/-- The reply to a request that is told in a caller's buffer. -/
def gloss (table : RuleTable) (request : Request) (buffer : Option (List UInt8)) :
    Except NotAscii Reply :=
  (table.call request buffer).reply

/-- Calls in turn, each with the buffer as the one before left it. -/
def session (table : RuleTable) (buffer : Option (List UInt8)) : List Request → List Call
  | [] => []
  | request :: requests =>
    let call := table.call request buffer
    call :: table.session call.buffer requests

/-- The replies to several requests in turn, all with the same buffer. -/
def glossAll (table : RuleTable) (buffer : Option (List UInt8)) (requests : List Request) :
    Except NotAscii (List Reply) :=
  (table.session buffer requests).mapM Call.reply

/-- The statement as a text, by way of a new buffer of the capacity that the request asks for;
the buffer has at least one byte, so that the capacity alone decides. -/
def glossText (table : RuleTable) (request : Request) : Except TextFailure String :=
  let capacity := request.capacity.getD standardCapacity
  let buffer := List.replicate (max capacity 1).toNat 0
  (table.call { request with capacity := some capacity } (some buffer)).asText

end RuleTable

end X86Gloss
