/-
X86Gloss/Console.lean

The log console and the handlers that write problems to it.

There is one console, with a level of its own and at most one stream; both show rows of
their level and above. Every new handler adjusts both levels to its own mode: everything in
debug mode, else all but the debug rows. A standing handler can be asked for, which is made
only when there is none of the mode asked for. The levels in force are those of the handler
made last, be it the standing one or not.
-/
import X86Gloss.Diagnostic

namespace X86Gloss

/-- A handler; the serial number tells it from other handlers of the same mode. -/
structure Handler where
  serial : Nat
  debugMode : Bool
deriving DecidableEq

/-- The quietest level that a handler shows. -/
def Handler.threshold (debugMode : Bool) : Level := if debugMode then .debug else .info

/-- The state of the console. The level is unset until there is a handler. -/
structure Console where
  level : Option Level
  streams : List Level
  standing : Option Handler
  made : Nat
deriving DecidableEq

namespace Console

/-- A console before any handler is made. -/
def fresh : Console := ⟨none, [], none, 0⟩

/-- A new handler adds the stream if it is not there and sets all levels to its own. -/
def make (console : Console) (debugMode : Bool) : Console × Handler :=
  let threshold := Handler.threshold debugMode
  let streams := if console.streams.isEmpty then [threshold] else console.streams
  ({ console with
      level := some threshold
      streams := streams.map fun _ => threshold
      made := console.made + 1 },
    ⟨console.made, debugMode⟩)

/-- The standing handler, made anew if there is none of the mode. -/
def get (console : Console) (debugMode : Bool) : Console × Handler :=
  match console.standing.filter (·.debugMode = debugMode) with
  | some handler => (console, handler)
  | none =>
    let (console, handler) := console.make debugMode
    ({ console with standing := some handler }, handler)

/-- Whether the console lets a row pass; with the level unset, warnings and above do. -/
def admits (console : Console) (row : Row) : Bool :=
  (console.level.getD .warning).rank ≤ row.level.rank

/-- The rows that pass. -/
def admitted (console : Console) (rows : List Row) : List Row := rows.filter console.admits

/-- The lines that rows leave on the streams. -/
def lines (console : Console) (stamp : String) (rows : List Row) : String :=
  String.join <| (console.admitted rows).flatMap fun row =>
    (console.streams.filter fun threshold => threshold.rank ≤ row.level.rank).map fun _ =>
      row.line stamp

end Console

/-! ### Handling a failure -/

/-- What handling a failure leaves: the row that is logged, a trace in debug mode, and the
failure itself when it is raised again. -/
structure Handled where
  row : Row
  trace : String
  raised : Option Failure
deriving DecidableEq

/-- The row of a report, at the level of its severity. -/
def Diagnostic.row (diagnostic : Diagnostic) : Row :=
  ⟨diagnostic.report.severity.level, .program, diagnostic.text⟩

namespace Failure

/-- The full name of the kind of failure. -/
def fullLabel : Failure → String
  | .diagnosed diagnostic => "pseudocoder.error_handling." ++ diagnostic.report.problem.label
  | .foreign failure => failure.label

/-- A failure on a line of its own, with its text if it has any. -/
def trace (failure : Failure) : String :=
  if failure.text = "" then failure.fullLabel ++ "\n"
  else failure.fullLabel ++ ": " ++ failure.text ++ "\n"

end Failure

/-- Handles a failure. The context is for failures from outside, which bring none. -/
def Handler.handle (handler : Handler) (failure : Failure) (context : Context)
    (reraise : Bool) : Handled :=
  { row := (failure.toDiagnostic context).row
    trace := if handler.debugMode then failure.trace else ""
    raised := if reraise then some failure else none }

end X86Gloss
