/-
X86Gloss/Rule.lean

Rules say how an instruction is told as a statement: a template, and the words that fill it.
A rule table gives every mnemonic at most one rule. It can also list a mnemonic without
giving it a rule; such a mnemonic counts as known to the table and still has no statement.
-/
import X86Gloss.Mnemonic

namespace X86Gloss

/-- The statement templates. -/
inductive Template where
  /-- Destination, operator, source. -/
  | assignment
  /-- Two operands compared, and the flags that this sets in a comment. -/
  | comparison
  /-- A call of the target. -/
  | call
  /-- A jump to the target. -/
  | jump
  /-- A jump to the target if a predicate on the flags holds. -/
  | conditionalBranch
  /-- A vector store, a vector load, or an assignment between registers. -/
  | vectorMove
  /-- An intrinsic function applied to the sources. -/
  | vectorFunction
deriving DecidableEq

/-- The template as data spells it. -/
def Template.name : Template → String
  | .assignment => "assignment"
  | .comparison => "comparison"
  | .call => "call"
  | .jump => "jump"
  | .conditionalBranch => "conditional_branch"
  | .vectorMove => "vector_move"
  | .vectorFunction => "vector_op"

/-- All templates. -/
def Template.all : List Template := [
  .assignment, .comparison, .call, .jump, .conditionalBranch, .vectorMove, .vectorFunction]

/-- The template with a spelling. -/
def Template.ofName? (name : String) : Option Template := all.find? (·.name = name)

/-- A template and the words that fill it. Each template reads the words that it needs. -/
structure Rule where
  template : Template
  /-- What stands between destination and source of an assignment. -/
  operator : String := ""
  /-- The condition of a branch. -/
  predicate : String := ""
  /-- What is noted behind a comparison or a branch. -/
  comment : Option String := none
  /-- The name of a vector operation, or what a vector move adds to its name. -/
  intrinsic : Option String := none
  /-- Whether a vector move demands an aligned address. -/
  aligned : Bool := false
  /-- Whether a semicolon ends the statement. -/
  terminated : Bool := true
deriving DecidableEq

namespace Rule

/-- The rule of an assignment. -/
def assign (operator : String) : Rule := { template := .assignment, operator }

/-- The rule of a comparison that sets some flags. -/
def compare (flags : String) : Rule :=
  { template := .comparison, comment := some ("set " ++ flags), terminated := false }

/-- The rule of a branch with nothing to note. -/
def branch (predicate : String) : Rule := { template := .conditionalBranch, predicate }

/-- The rule of a branch with a comment, which ends the statement. -/
def notedBranch (predicate comment : String) : Rule :=
  { template := .conditionalBranch, predicate, comment := some comment, terminated := false }

/-- The rule of a vector move that demands an aligned address. -/
def moveAligned (suffix : String) : Rule :=
  { template := .vectorMove, intrinsic := some suffix, aligned := true }

/-- The rule of a vector move to or from any address. -/
def moveAnywhere (suffix : String) : Rule :=
  { template := .vectorMove, intrinsic := some suffix }

/-- The rule of a vector operation. -/
def vector (intrinsic : String) : Rule :=
  { template := .vectorFunction, intrinsic := some intrinsic }

end Rule

/-- What a table says of each mnemonic: nothing, that it is listed, or its rule as well. -/
def RuleTable := Mnemonic → Option (Option Rule)

namespace RuleTable

/-- Whether the table lists a mnemonic, with or without a rule. -/
def lists (table : RuleTable) (mnemonic : Mnemonic) : Bool := (table mnemonic).isSome

/-- The rule of a mnemonic. -/
def rule? (table : RuleTable) (mnemonic : Mnemonic) : Option Rule := (table mnemonic).join

/-- The table of a list of entries; of several entries for one mnemonic the first counts. -/
def ofList (entries : List (Mnemonic × Option Rule)) : RuleTable := fun mnemonic =>
  entries.lookup mnemonic

end RuleTable

end X86Gloss
