/-
X86Gloss/Log.lean

Log rows: who says what, and how loudly. The library returns the rows that an action writes;
which of them are shown is for the console to decide.
-/
namespace X86Gloss

/-- How loud a row is. -/
inductive Level where
  | debug
  | info
  | warning
  | error
  | critical
deriving DecidableEq

/-- The place of a level in their order, quietest first. -/
def Level.rank : Level → Nat
  | .debug => 0
  | .info => 1
  | .warning => 2
  | .error => 3
  | .critical => 4

/-- The level as it is written in a row. -/
def Level.name : Level → String
  | .debug => "DEBUG"
  | .info => "INFO"
  | .warning => "WARNING"
  | .error => "ERROR"
  | .critical => "CRITICAL"

/-- The part of the program that writes a row. -/
inductive Source where
  | program
  | statements
  | decoder
deriving DecidableEq

/-- The source as it is written in a row. -/
def Source.name : Source → String
  | .program => "pseudocoder"
  | .statements => "pseudocoder.translator"
  | .decoder => "pseudocoder.capstone_decoder"

/-- One row of the log. -/
structure Row where
  level : Level
  source : Source
  message : String
deriving DecidableEq

/-- A row as a line of text, after a time stamp. -/
def Row.line (stamp : String) (row : Row) : String :=
  stamp ++ " - " ++ row.source.name ++ " - " ++ row.level.name ++ " - " ++ row.message ++ "\n"

end X86Gloss
