/-
X86Gloss/Diagnostic.lean

What is reported when something goes wrong. A `Problem` says what it is, a `Report` adds how
severe it is, where it happened and what to do about it, and a `Diagnostic` is a report with
the chain of reports that led to it. The chain may end in a `Foreign` failure, one that arose
outside this library and is known only by its label and its text.

The text of a diagnostic is the text of its report followed by the text of its cause, so it
ends with the text of every member of the chain.
-/
import X86Gloss.Log
import X86Gloss.Text.Numeral

namespace X86Gloss

/-! ### Severity and category -/

/-- How severe a problem is. -/
inductive Severity where
  | critical
  | error
  | warning
  | info
deriving DecidableEq

/-- The severity as it stands at the head of a text. -/
def Severity.name : Severity → String
  | .critical => "CRITICAL"
  | .error => "ERROR"
  | .warning => "WARNING"
  | .info => "INFO"

/-- The level at which a problem is logged. -/
def Severity.level : Severity → Level
  | .critical => .critical
  | .error => .error
  | .warning => .warning
  | .info => .info

/-- The area that a problem belongs to. -/
inductive Category where
  | input
  | capacity
  | statement
  | decoder
  | configuration
  | internal
deriving DecidableEq

/-- The category as it stands at the head of a text. -/
def Category.name : Category → String
  | .input => "Input Error"
  | .capacity => "Capacity Error"
  | .statement => "Translation Error"
  | .decoder => "Decoder Error"
  | .configuration => "Configuration Error"
  | .internal => "Internal Error"

/-! ### Problems -/

/-- What went wrong. -/
inductive Problem where
  /-- A problem of any category, told in words. -/
  | general (category : Category) (detail : String)
  /-- Malformed arguments, which the caller can mend. -/
  | input (detail : String)
  /-- An operand that has no text. -/
  | operand (detail : String)
  /-- A register identifier that the table does not list. -/
  | register (id : Int)
  /-- A text that did not fit into what was left of a buffer. -/
  | noRoom (requested remaining : Int)
  /-- A mnemonic without a statement. -/
  | noStatement (mnemonic : String)
  /-- A failure while machine code was decoded. -/
  | decoding (detail : String)
  /-- A setting out of bounds. -/
  | configuration (detail : String)
deriving DecidableEq

namespace Problem

/-- The problem in words. -/
def message : Problem → String
  | .general _ detail => detail
  | .input detail => detail
  | .operand detail => detail
  | .register id => "Register identifier " ++ Numeral.decimal id ++ " is out of range"
  | .noRoom requested remaining =>
    "Cannot append " ++ Numeral.decimal requested ++ " byte(s), only "
      ++ Numeral.decimal remaining ++ " remaining"
  | .noStatement mnemonic => "No translation available for '" ++ mnemonic ++ "'"
  | .decoding detail => detail
  | .configuration detail => detail

/-- The area that the problem belongs to. -/
def category : Problem → Category
  | .general category _ => category
  | .input _ => .input
  | .operand _ => .input
  | .register _ => .input
  | .noRoom _ _ => .capacity
  | .noStatement _ => .statement
  | .decoding _ => .decoder
  | .configuration _ => .configuration

/-- The name of the kind of problem, as it stands in a chain of causes. -/
def label : Problem → String
  | .general _ _ => "PseudocoderError"
  | .input _ => "InputValidationError"
  | .operand _ => "OperandError"
  | .register _ => "RegisterError"
  | .noRoom _ _ => "CapacityExceededError"
  | .noStatement _ => "NoTranslationError"
  | .decoding _ => "DecoderError"
  | .configuration _ => "ConfigurationError"

/-- Operand problems are those of an operand that cannot be shown. -/
def isOperand : Problem → Bool
  | .operand _ => true
  | .register _ => true
  | _ => false

/-- Input problems are those of malformed arguments, operands among them. -/
def isInput : Problem → Bool
  | .input _ => true
  | problem => problem.isOperand

/-- A missing statement is only a warning. -/
def severity : Problem → Severity
  | .noStatement _ => .warning
  | _ => .error

/-- The advice that goes with some kinds of problem. -/
def suggestion : Problem → Option String
  | .noRoom _ _ => some "Retry with a larger output buffer."
  | .noStatement _ => some "Fall back to the disassembly text."
  | _ => none

end Problem

/-! ### Context -/

/-- A value that a note or a message shows. -/
inductive Value where
  | text (value : String)
  | number (value : Int)
  | flag (value : Bool)
  | null
deriving DecidableEq

/-- The value as it is shown. -/
def Value.shown : Value → String
  | .text value => value
  | .number value => Numeral.decimal value
  | .flag true => "True"
  | .flag false => "False"
  | .null => "None"

/-- Notes by key, in the order in which the keys first came. -/
structure Notes where
  entries : List (String × Value)
deriving DecidableEq

namespace Notes

/-- No note. -/
def empty : Notes := ⟨[]⟩

/-- A known key keeps its place and takes the new value, a new one goes to the end. -/
def insert (notes : Notes) (key : String) (value : Value) : Notes :=
  if notes.entries.any (·.1 = key) then
    ⟨notes.entries.map fun entry => if entry.1 = key then (key, value) else entry⟩
  else
    ⟨notes.entries ++ [(key, value)]⟩

/-- The notes of a list of pairs, inserted in order. -/
def ofList (pairs : List (String × Value)) : Notes :=
  pairs.foldl (fun notes pair => notes.insert pair.1 pair.2) empty

end Notes

/-- Where a problem arose, as far as it is known. -/
structure Context where
  mnemonic : Option String := none
  operandIndex : Option Int := none
  address : Option Int := none
  notes : Option Notes := none
deriving DecidableEq

/-- The known parts of a context, one line each. -/
def Context.lines (context : Context) : List String :=
  ((context.mnemonic.filter (· ≠ "")).toList.map ("Mnemonic: " ++ ·))
    ++ (context.operandIndex.toList.map fun index => "Operand: #" ++ Numeral.decimal index)
    ++ (context.address.toList.map fun address => "Address: " ++ Numeral.lowerHex address)
    ++ ((context.notes.getD Notes.empty).entries.map fun note => note.1 ++ ": " ++ note.2.shown)

/-! ### Reports -/

/-- A problem with its severity, its context and a piece of advice. -/
structure Report where
  problem : Problem
  severity : Severity
  context : Context
  suggestion : Option String
deriving DecidableEq

namespace Report

/-- The report of a problem with the severity and the advice of its kind. -/
def of (problem : Problem) (context : Context) : Report :=
  { problem, severity := problem.severity, context, suggestion := problem.suggestion }

/-- Severity, category and message. -/
def header (report : Report) : String :=
  report.severity.name ++ ": " ++ report.problem.category.name ++ ": " ++ report.problem.message

/-- What stands below the header, one line each. -/
def details (report : Report) : List String :=
  report.context.lines
    ++ ((report.suggestion.filter (· ≠ "")).toList.map ("Suggestion: " ++ ·))

/-- The header, then every detail on an indented line of its own. -/
def text (report : Report) : String :=
  report.header ++ String.join (report.details.map ("\n  " ++ ·))

end Report

/-! ### Chains of causes -/

/-- A failure from outside: its label and its text. -/
structure Foreign where
  label : String
  text : String
deriving DecidableEq

/-- A report, the reports that led to it, nearest first, and what the last of them came from. -/
structure Diagnostic where
  report : Report
  causes : List Report
  origin : Option Foreign
deriving DecidableEq

/-- Anything that can go wrong: a diagnostic, or a failure from outside. -/
inductive Failure where
  | diagnosed (diagnostic : Diagnostic)
  | foreign (failure : Foreign)
deriving DecidableEq

/-- The line that introduces a cause. -/
def causeLine (label text : String) : String := "\n  Caused by: " ++ label ++ ": " ++ text

/-- The text of a chain: each report introduces the next. -/
def chainText (origin : Option Foreign) (report : Report) : List Report → String
  | [] => report.text ++ (origin.elim "" fun failure => causeLine failure.label failure.text)
  | cause :: causes =>
    report.text ++ causeLine cause.problem.label (chainText origin cause causes)

namespace Diagnostic

/-- A report without a cause. -/
def ofReport (report : Report) : Diagnostic := ⟨report, [], none⟩

/-- A problem without a cause, reported with the severity and the advice of its kind. -/
def of (problem : Problem) (context : Context) : Diagnostic := ofReport (Report.of problem context)

/-- The report together with its causes, as text. -/
def text (diagnostic : Diagnostic) : String :=
  chainText diagnostic.origin diagnostic.report diagnostic.causes

/-- What the report came from. -/
def cause? (diagnostic : Diagnostic) : Option Failure :=
  match diagnostic.causes with
  | report :: causes => some (.diagnosed ⟨report, causes, diagnostic.origin⟩)
  | [] => diagnostic.origin.map .foreign

/-- The report of what a failure led to. -/
def causedBy (report : Report) : Failure → Diagnostic
  | .diagnosed cause => ⟨report, cause.report :: cause.causes, cause.origin⟩
  | .foreign failure => ⟨report, [], some failure⟩

end Diagnostic

namespace Failure

/-- The name of the kind of failure. -/
def label : Failure → String
  | .diagnosed diagnostic => diagnostic.report.problem.label
  | .foreign failure => failure.label

/-- The failure in words. -/
def text : Failure → String
  | .diagnosed diagnostic => diagnostic.text
  | .foreign failure => failure.text

/-- A failure from outside becomes the cause of an internal problem with the same message. -/
def toDiagnostic (context : Context) : Failure → Diagnostic
  | .diagnosed diagnostic => diagnostic
  | .foreign failure =>
    .causedBy (Report.of (.general .internal failure.text) context) (.foreign failure)

end Failure

end X86Gloss
