/-
X86Gloss/Proofs/Statement/Sentence.lean

What a statement says, apart from how it is written. A `Sentence` holds the words of a rule and
the texts of the operands that its template prints; `Sentence.text` writes them down. Two views of
a statement are connected here:

* `Rule.fault_statement_eq_none_iff`: a statement has no fault exactly when all operands that its
  template prints have texts, and a vector move that is no store has a source;
* `Rule.text_statement`: without a fault, its text is that of its sentence, if the rule holds no
  words but those that its template reads.

From the sentence both can be had back: the rule (`Rule.rule_sentence`) and the operand texts
(`Rule.operands_sentence`).
-/
import X86Gloss.Proofs.Statement.Writing

namespace X86Gloss

open Emission

/-! ### The operands that a template prints -/

namespace Site

variable (site : Site)

/-- Whether the operand with an index addresses memory. -/
def addressesMemory (index : Nat) : Bool := site.operands[index]?.any Operand.addressesMemory

/-- The indices of the visible operands but the first. -/
def sourceIndices : List Nat := List.range' 1 (site.instruction.visible - 1).toNat

/-- The texts of the visible operands but the first. -/
def sourceTexts : List String := site.sourceIndices.map fun index => (site.operand index).text

end Site

/-- The indices of the operands that the template prints, in order. -/
def Rule.printedIndices (rule : Rule) (site : Site) : List Nat :=
  match rule.template with
  | .assignment | .comparison => [0, 1]
  | .call | .jump | .conditionalBranch => [0]
  | .vectorMove | .vectorFunction => 0 :: site.sourceIndices

/-- The texts of the operands that the template prints, in order. -/
def Rule.printed (rule : Rule) (site : Site) : List String :=
  (rule.printedIndices site).map fun index => (site.operand index).text

/-- A vector move with memory at neither end, which is told as an assignment. -/
def Rule.movesRegister (rule : Rule) (site : Site) : Bool :=
  rule.template = .vectorMove && !site.addressesMemory 0 && !site.addressesMemory 1

/-! ### Faults -/

namespace Site

variable (site : Site)

/-- A list of operands has no fault exactly when none of them has one. -/
theorem fault_listed_eq_none_iff (index count : Nat) :
    (site.listed (site.operands.drop index) index count).fault = none
      ↔ ∀ i ∈ List.range' index count, (site.operand i).fault = none := by
  induction count generalizing index with
  | zero => simp [listed_zero]
  | succ count ih =>
    rw [listed_drop_succ, List.range'_succ, List.forall_mem_cons, fault_append,
      Option.or_eq_none_iff, ← ih (index + 1)]
    rcases count with - | count
    · simp [listed_zero]
    · simp

theorem fault_sources_eq_none_iff :
    site.sources.fault = none ↔ ∀ i ∈ site.sourceIndices, (site.operand i).fault = none :=
  site.fault_listed_eq_none_iff 1 _

/-- Without a fault, the text of a list are the texts of its operands with commas between them. -/
theorem text_listed (index count : Nat)
    (h : (site.listed (site.operands.drop index) index count).fault = none) :
    (site.listed (site.operands.drop index) index count).text
      = ", ".intercalate ((List.range' index count).map fun i => (site.operand i).text) := by
  induction count generalizing index with
  | zero => simp [listed_zero]
  | succ count ih =>
    rw [listed_drop_succ, fault_append, Option.or_eq_none_iff] at h
    rw [listed_drop_succ, text_append h.1, List.range'_succ, List.map_cons]
    -- Whether a comma follows depends on the count alone, also in the intercalated texts.
    rcases count with - | count
    · simp
    · have hrest := h.2
      simp only [Nat.add_one_ne_zero, if_false, fault_append, fault_piece, Option.none_or] at hrest
      rw [if_neg (Nat.succ_ne_zero count), text_append (fault_piece _), text_piece,
        ih (index + 1) hrest, List.range'_succ, List.map_cons, String.intercalate_cons_cons,
        String.append_assoc]

theorem text_sources (h : site.sources.fault = none) :
    site.sources.text = ", ".intercalate site.sourceTexts :=
  site.text_listed 1 _ h

theorem operand_of_getElem? {index : Nat} {operand : Operand}
    (h : site.operands[index]? = some operand) :
    site.operand index = operand.emission site.address := by
  rw [Site.operand, h]

theorem fault_operand_of_length_le {index : Nat} (h : site.operands.length ≤ index) :
    (site.operand index).fault ≠ none := by
  rw [Site.operand, List.getElem?_eq_none h]
  exact Option.some_ne_none _

/-- Where no operand has a fault, only those that are not there do. -/
theorem fault_operand_eq_none_iff
    (h : ∀ operand ∈ site.operands, (operand.emission site.address).fault = none) {index : Nat} :
    (site.operand index).fault = none ↔ index < site.operands.length := by
  rcases Nat.lt_or_ge index site.operands.length with hlt | hge
  · rw [site.operand_of_getElem? (List.getElem?_eq_getElem hlt)]
    exact ⟨fun _ => hlt, fun _ => h _ (List.getElem_mem hlt)⟩
  · refine ⟨fun hfault => absurd hfault (site.fault_operand_of_length_le hge), fun hlt => ?_⟩
    exact absurd hlt (Nat.not_lt.mpr hge)

end Site

namespace Rule

variable (rule : Rule) (site : Site)

theorem fault_vectorMove_eq_none_iff :
    (rule.vectorMove site).fault = none ↔
      (∀ index ∈ 0 :: site.sourceIndices, (site.operand index).fault = none)
      ∧ (site.addressesMemory 0 = false → 1 < site.operands.length) := by
  rw [List.forall_mem_cons, ← site.fault_sources_eq_none_iff]
  obtain ⟨instruction, operands, address⟩ := site
  -- The template looks at the first operand, then at the second if the first is no memory: one case
  -- for each number of operands that it can meet.
  rcases operands with - | ⟨destination, - | ⟨source, rest⟩⟩
  · simp [vectorMove, Site.operand]
  · by_cases hstore : destination.addressesMemory = true <;>
      simp [vectorMove, Site.addressesMemory, hstore]
  · -- With two operands or more the source is there, and the second half says nothing.
    by_cases hstore : destination.addressesMemory = true
    · simp [vectorMove, hstore]
    · by_cases hload : source.addressesMemory = true <;> simp [vectorMove, hstore, hload]

/-- A statement has no fault exactly when all operands that its template prints have texts, and a
vector move that is no store has a source, be it printed or not. -/
theorem fault_statement_eq_none_iff :
    (rule.statement site).fault = none ↔
      (∀ index ∈ rule.printedIndices site, (site.operand index).fault = none)
      ∧ (rule.template = .vectorMove → site.addressesMemory 0 = false →
        1 < site.operands.length) := by
  -- Neither the semicolon nor a note can fail, so only the operands are left.
  have hend : (if rule.terminated then piece ";" else .empty : Emission OperandFault).fault
      = none := by split <;> rfl
  have hnote : (rule.comment.elim .empty fun comment => piece ("; // " ++ comment) :
      Emission OperandFault).fault = none := by cases rule.comment <;> rfl
  rw [statement, fault_append, hend, Option.or_none, body, printedIndices]
  cases rule.template with
  | assignment | comparison | call | jump => simp
  | conditionalBranch => simp [hnote]
  | vectorMove =>
    rw [fault_vectorMove_eq_none_iff]
    simp
  | vectorFunction =>
    rw [List.forall_mem_cons, ← site.fault_sources_eq_none_iff]
    simp

end Rule

/-! ### Sentences -/

/-- The rule of a vector move. -/
def Rule.move (aligned : Bool) (suffix : String) : Rule :=
  { template := .vectorMove, intrinsic := some suffix, aligned }

/-- What a destination receives. -/
inductive Expression where
  /-- An operand as it is. -/
  | operand (text : String)
  /-- The address of an operand. -/
  | address (text : String)
  /-- What a vector load yields. -/
  | load (aligned : Bool) (suffix : String) (sources : List String)
  /-- What an intrinsic function yields. -/
  | function (name : String) (sources : List String)
  /-- What a vector move between registers carries over. -/
  | moved (sources : List String)

namespace Expression

/-- The operand texts of the expression. -/
def operands : Expression → List String
  | .operand text | .address text => [text]
  | .load _ _ sources | .function _ sources | .moved sources => sources

/-- The expression written down. -/
def text : Expression → String
  | .operand text => text
  | .address text => "&" ++ text
  | .load aligned suffix sources =>
    (Rule.move aligned suffix).moveName "load" ++ "(" ++ ", ".intercalate sources ++ ")"
  | .function name sources => name ++ "(" ++ ", ".intercalate sources ++ ")"
  | .moved sources => ", ".intercalate sources

end Expression

/-- What a statement says: the words of a rule with the texts of its operands. -/
inductive Sentence where
  | assignment (joint destination : String) (value : Expression)
  | comparison (note first second : String)
  | call (target : String)
  | jump (target : String)
  | branch (condition : String) (note : Option String) (target : String)
  | store (aligned : Bool) (suffix target : String) (sources : List String)

namespace Sentence

/-- The operand texts of the sentence. -/
def operands : Sentence → List String
  | .assignment _ destination value => destination :: value.operands
  | .comparison _ first second => [first, second]
  | .call target | .jump target | .branch _ _ target => [target]
  | .store _ _ target sources => target :: sources

/-- The sentence written down. -/
def text : Sentence → String
  | .assignment joint destination value => destination ++ joint ++ value.text ++ ";"
  | .comparison note first second => "compare(" ++ first ++ ", " ++ second ++ ") // " ++ note
  | .call target => "(" ++ target ++ ")();"
  | .jump target => "goto " ++ target ++ ";"
  | .branch condition note target =>
    "if (" ++ condition ++ ") goto " ++ target ++ ";" ++ note.elim "" (" // " ++ ·)
  | .store aligned suffix target sources =>
    (Rule.move aligned suffix).moveName "store" ++ "(" ++ target ++ ", "
      ++ ", ".intercalate sources ++ ");"

/-- The rule whose words the sentence holds. -/
def rule : Sentence → Rule
  | .assignment joint _ value =>
    match value with
    | .operand _ => .assign joint
    | .address _ => .assign " = &"
    | .load aligned suffix _ => .move aligned suffix
    | .function name _ => .vector name
    | .moved _ => { template := .vectorMove }
  | .comparison note _ _ => { template := .comparison, comment := some note, terminated := false }
  | .call _ => { template := .call }
  | .jump _ => { template := .jump }
  | .branch condition note _ =>
    { template := .conditionalBranch
      predicate := condition
      comment := note
      terminated := note.isNone }
  | .store aligned suffix _ _ => .move aligned suffix

end Sentence

namespace Rule

/-- What the rule says of a site. The operator of an address is the one that ends in a mark. -/
def sentence (rule : Rule) (site : Site) : Sentence :=
  let first := (site.operand 0).text
  let second := (site.operand 1).text
  match rule.template with
  | .assignment =>
    if rule.operator = " = &" then .assignment " = " first (.address second)
    else .assignment rule.operator first (.operand second)
  | .comparison => .comparison (rule.comment.getD Value.null.shown) first second
  | .call => .call first
  | .jump => .jump first
  | .conditionalBranch => .branch rule.predicate rule.comment first
  | .vectorMove =>
    if site.addressesMemory 0 then
      .store rule.aligned (rule.intrinsic.getD "") first site.sourceTexts
    else if site.addressesMemory 1 then
      .assignment " = " first (.load rule.aligned (rule.intrinsic.getD "") site.sourceTexts)
    else .assignment " = " first (.moved site.sourceTexts)
  | .vectorFunction => .assignment " = " first (.function rule.intrinsicName site.sourceTexts)

/-- The rule with no words but those that its template reads. -/
def essential (rule : Rule) : Rule :=
  match rule.template with
  | .assignment => .assign rule.operator
  | .comparison =>
    { template := .comparison
      comment := some (rule.comment.getD Value.null.shown)
      terminated := false }
  | .call => { template := .call }
  | .jump => { template := .jump }
  | .conditionalBranch =>
    { template := .conditionalBranch
      predicate := rule.predicate
      comment := rule.comment
      terminated := rule.comment.isNone }
  | .vectorMove => .move rule.aligned (rule.intrinsic.getD "")
  | .vectorFunction => .vector rule.intrinsicName

variable (rule : Rule) (site : Site)

/-- The sentence has the operand texts that the template prints. -/
theorem operands_sentence : (rule.sentence site).operands = rule.printed site := by
  rw [sentence, printed, printedIndices]
  cases rule.template with
  | assignment =>
    by_cases hoperator : rule.operator = " = &"
    · simp only [if_pos hoperator]
      rfl
    · simp only [if_neg hoperator]
      rfl
  | comparison | call | jump | conditionalBranch | vectorFunction => rfl
  | vectorMove =>
    by_cases hstore : site.addressesMemory 0 = true
    · simp only [if_pos hstore]
      rfl
    · by_cases hload : site.addressesMemory 1 = true
      · simp only [if_neg hstore, if_pos hload]
        rfl
      · simp only [if_neg hstore, if_neg hload]
        rfl

/-- The sentence holds the words that the template reads, a move between registers apart. -/
theorem rule_sentence (h : rule.movesRegister site = false) :
    (rule.sentence site).rule = rule.essential := by
  rw [movesRegister] at h
  rw [sentence, essential]
  cases htemplate : rule.template with
  | assignment =>
    by_cases hoperator : rule.operator = " = &"
    · simp only [if_pos hoperator, Sentence.rule]
      rw [hoperator]
    · simp only [if_neg hoperator, Sentence.rule]
  | comparison | call | jump | conditionalBranch | vectorFunction => rfl
  | vectorMove =>
    by_cases hstore : site.addressesMemory 0 = true
    · simp only [if_pos hstore, Sentence.rule]
    · by_cases hload : site.addressesMemory 1 = true
      · simp only [if_neg hstore, if_pos hload, Sentence.rule]
      · -- A move between registers, which the hypothesis excludes: its text has no suffix to read.
        simp [htemplate, hstore, hload] at h

/-- The body of a vector move and the semicolon behind it make up its sentence. -/
theorem text_vectorMove (htemplate : rule.template = .vectorMove)
    (h : (rule.vectorMove site).fault = none) :
    (rule.vectorMove site).text ++ ";" = (rule.sentence site).text := by
  obtain ⟨hall, -⟩ := (rule.fault_vectorMove_eq_none_iff site).mp h
  rw [List.forall_mem_cons, ← site.fault_sources_eq_none_iff] at hall
  -- A fault would cut off all that comes behind it, so each text is taken out by the absence of
  -- one.
  have hfirst := fun rest => text_append hall.1 rest
  have hsources := fun rest => text_append hall.2 rest
  have hname : ∀ verb, (move rule.aligned (rule.intrinsic.getD "")).moveName verb
      = rule.moveName verb := fun verb => rfl
  rw [sentence]
  simp only [htemplate]
  obtain ⟨instruction, operands, address⟩ := site
  rcases operands with - | ⟨destination, rest⟩
  · cases h
  by_cases hstore : destination.addressesMemory = true
  · simp only [vectorMove, Site.addressesMemory, List.getElem?_cons_zero, Option.any_some, hstore,
      if_true, append_assoc, text_piece_append, hfirst, hsources, text_piece,
      Site.text_sources _ hall.2, Sentence.text, hname, String.append_assoc]
    rfl
  -- No store, so a source is looked at: a template without one has failed.
  rcases rest with - | ⟨source, rest⟩
  · simp [vectorMove, hstore] at h
  by_cases hload : source.addressesMemory = true
  · simp only [vectorMove, Site.addressesMemory, List.getElem?_cons_zero, List.getElem?_cons_succ,
      Option.any_some, hstore, hload, if_true, if_false, Bool.false_eq_true, append_assoc,
      text_piece_append, hfirst, hsources, text_piece, Site.text_sources _ hall.2, Sentence.text,
      Expression.text, hname, String.append_assoc]
  · simp only [vectorMove, Site.addressesMemory, List.getElem?_cons_zero, List.getElem?_cons_succ,
      Option.any_some, hstore, hload, if_false, Bool.false_eq_true, append_assoc, text_piece_append,
      hfirst, Site.text_sources _ hall.2, Sentence.text, Expression.text, String.append_assoc]

/-- Without a fault, the text of a statement is that of its sentence. -/
theorem text_statement (hessential : rule.essential = rule)
    (h : (rule.statement site).fault = none) :
    (rule.statement site).text = (rule.sentence site).text := by
  have hprinted := ((rule.fault_statement_eq_none_iff site).mp h).1
  -- Whether a semicolon ends the statement is no word of the template, so it is read off the
  -- essential rule.
  have hterminated := congrArg Rule.terminated hessential
  rw [statement, fault_append, Option.or_eq_none_iff] at h
  rw [statement, text_append h.1]
  have hbody := h.1
  rw [printedIndices] at hprinted
  rw [essential] at hterminated
  cases htemplate : rule.template with
  | assignment =>
    simp only [htemplate, List.forall_mem_cons] at hprinted hterminated
    have hfirst := fun rest => text_append hprinted.1 rest
    by_cases hoperator : rule.operator = " = &"
    · -- The operator of an address is written in one piece, the sentence has it in two.
      have hsplit : " = &" = " = " ++ "&" := rfl
      simp only [body, sentence, htemplate, ← hterminated, assign, hoperator, if_true, append_assoc,
        hfirst, text_piece_append, text_piece, Sentence.text, Expression.text, hsplit,
        String.append_assoc]
    · simp only [body, sentence, htemplate, ← hterminated, assign, hoperator, if_true, if_false,
        append_assoc, hfirst, text_piece_append, text_piece, Sentence.text, Expression.text,
        String.append_assoc]
  | comparison =>
    simp only [htemplate, List.forall_mem_cons] at hprinted hterminated
    have hfirst := fun rest => text_append hprinted.1 rest
    have hsecond := fun rest => text_append hprinted.2.1 rest
    simp [body, sentence, htemplate, ← hterminated, append_assoc, hfirst, hsecond, Sentence.text,
      String.append_assoc]
  | call =>
    simp only [htemplate, List.forall_mem_cons] at hprinted hterminated
    have hfirst := fun rest => text_append hprinted.1 rest
    simp [body, sentence, htemplate, ← hterminated, append_assoc, hfirst, Sentence.text,
      String.append_assoc]
  | jump =>
    simp only [htemplate] at hterminated
    simp [body, sentence, htemplate, ← hterminated, Sentence.text]
  | conditionalBranch =>
    simp only [htemplate, List.forall_mem_cons] at hprinted hterminated
    have hfirst := fun rest => text_append hprinted.1 rest
    rcases hcomment : rule.comment with - | comment
    · simp [body, sentence, htemplate, ← hterminated, hcomment, Sentence.text, String.append_assoc]
    · -- The note brings the semicolon with it; in the sentence the semicolon comes first.
      have hsplit : "; // " ++ comment = ";" ++ (" // " ++ comment) :=
        (String.append_assoc : ";" ++ " // " ++ comment = _)
      simp [body, sentence, htemplate, ← hterminated, hcomment, append_assoc, hfirst, hsplit,
        Sentence.text, String.append_assoc]
  | vectorMove =>
    simp only [htemplate, move] at hterminated
    simp only [body, htemplate] at hbody ⊢
    rw [← hterminated, if_pos rfl, text_piece, rule.text_vectorMove site htemplate hbody]
  | vectorFunction =>
    simp only [htemplate, List.forall_mem_cons, ← site.fault_sources_eq_none_iff] at hprinted
    simp only [htemplate] at hterminated
    have hfirst := fun rest => text_append hprinted.1 rest
    have hsources := fun rest => text_append hprinted.2 rest
    simp [body, sentence, htemplate, ← hterminated, vector, append_assoc, hfirst, hsources,
      site.text_sources hprinted.2, Sentence.text, Expression.text, String.append_assoc]

end Rule

end X86Gloss
