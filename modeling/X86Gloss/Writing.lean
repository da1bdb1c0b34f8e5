/-
X86Gloss/Writing.lean

Writing to a sink step by step. A writing takes a sink from one text to the next and may halt
on the way: a sink refuses a text, or the writer itself meets a fault. Whatever was written
before a halt stays in the sink.

`Writing.into` runs a writing on a sink and answers like `Sink.emit` does, so that a writing
can be held against the emission it is supposed to come to.
-/
import X86Gloss.Sink

namespace X86Gloss

/-- A program that writes to a sink and may halt; the sink keeps what was written before. -/
abbrev Writing (ε : Type) : Type → Type := ExceptT (Halt ε) (StateM Sink)

namespace Writing

variable {ε : Type}

/-- Hands one text to the sink. -/
def put (text : String) : Writing ε Unit := fun sink =>
  match sink.append text with
  | .ok next => (.ok (), next)
  | .error refusal => (.error (.refused refusal), sink)

theorem run_put (text : String) (sink : Sink) :
    (put text : Writing ε Unit).run.run sink =
      match sink.append text with
      | .ok next => (.ok (), next)
      | .error refusal => (.error (.refused refusal), sink) := rfl

/-- Stops with a fault. -/
def stop {α : Type} (fault : ε) : Writing ε α := throw (.fault fault)

/-- The sink after a writing, and why the writing halted, if it did. -/
def into (writing : Writing ε Unit) (sink : Sink) : Sink × Option (Halt ε) :=
  match writing.run.run sink with
  | (.ok (), final) => (final, none)
  | (.error halt, final) => (final, some halt)

end Writing

end X86Gloss
