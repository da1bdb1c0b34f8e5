/-
X86Gloss/Proofs/Statement/Ascii.lean

A statement is ASCII when the words of its rule are. Everything else that a statement is made
of is ASCII anyway: the words of the templates and the texts of the operands. So a table whose rules
hold ASCII texts never makes a sink refuse a piece for its characters. The standard table is one.
-/
import X86Gloss.Proofs.Operand.Alphabet
import X86Gloss.Rule.Standard

namespace X86Gloss

/-! ### Emissions -/

namespace Emission

variable {ε : Type}

/-- Every piece is ASCII. -/
def HasAsciiPieces (emission : Emission ε) : Prop := ∀ piece ∈ emission.pieces, IsAscii piece

theorem hasAsciiPieces_empty : (empty : Emission ε).HasAsciiPieces := by
  simp [HasAsciiPieces, empty]

theorem hasAsciiPieces_fail (fault : ε) : (fail fault).HasAsciiPieces := by
  simp [HasAsciiPieces, fail]

theorem hasAsciiPieces_piece {text : String} (h : IsAscii text) :
    (piece text : Emission ε).HasAsciiPieces := by
  simpa [HasAsciiPieces, piece] using h

theorem HasAsciiPieces.append {first second : Emission ε} (hfirst : first.HasAsciiPieces)
    (hsecond : second.HasAsciiPieces) : (first ++ second).HasAsciiPieces := by
  obtain ⟨pieces, fault⟩ := first
  -- The second emission is written only behind a first without a fault.
  rcases fault with - | fault
  · intro piece hmem
    rcases List.mem_append.mp hmem with hmem | hmem
    · exact hfirst piece hmem
    · exact hsecond piece hmem
  · exact hfirst

end Emission

open Emission

/-! ### Operands -/

theorem Register.isAscii_text {register : Register} (h : register ∈ table) :
    IsAscii register.text :=
  (isWord_text h).isAscii

/-- An emission of words is one of ASCII pieces. -/
theorem Emission.hasAsciiPieces_of_isWord {ε : Type} {emission : Emission ε}
    (h : IsWord emission.text) : emission.HasAsciiPieces :=
  fun piece hmem => (isWord_join.mp h piece hmem).isAscii

theorem Operand.hasAsciiPieces_emission (address : Int) (operand : Operand) :
    (operand.emission address).HasAsciiPieces :=
  hasAsciiPieces_of_isWord (operand.isWord_emission address)

namespace Site

variable (site : Site)

theorem hasAsciiPieces_operand (index : Nat) : (site.operand index).HasAsciiPieces :=
  hasAsciiPieces_of_isWord (site.isWord_operand index)

theorem hasAsciiPieces_listed (operands : List Operand) (index count : Nat) :
    (site.listed operands index count).HasAsciiPieces := by
  induction operands generalizing index count with
  | nil =>
    cases count with
    | zero => exact hasAsciiPieces_empty
    | succ count => exact hasAsciiPieces_fail _
  | cons operand rest ih =>
    cases count with
    | zero => exact hasAsciiPieces_empty
    | succ count =>
      refine (operand.hasAsciiPieces_emission site.address).append ?_
      split
      · exact hasAsciiPieces_empty
      · exact (hasAsciiPieces_piece (by decide)).append (ih (index + 1) count)

theorem hasAsciiPieces_sources : site.sources.HasAsciiPieces :=
  site.hasAsciiPieces_listed _ _ _

end Site

/-! ### Rules -/

namespace Rule

/-- The words of a rule, read by its template or not. -/
def texts (rule : Rule) : List String :=
  rule.operator :: rule.predicate :: (rule.comment.toList ++ rule.intrinsic.toList)

/-- Every word of the rule is ASCII. -/
def HasAsciiTexts (rule : Rule) : Prop := ∀ text ∈ rule.texts, IsAscii text

instance (rule : Rule) : Decidable rule.HasAsciiTexts :=
  inferInstanceAs (Decidable (∀ text ∈ rule.texts, IsAscii text))

namespace HasAsciiTexts

variable {rule : Rule}

theorem operator (h : rule.HasAsciiTexts) : IsAscii rule.operator :=
  h _ (by simp [texts])

theorem predicate (h : rule.HasAsciiTexts) : IsAscii rule.predicate :=
  h _ (by simp [texts])

theorem comment (h : rule.HasAsciiTexts) {comment : String} (hc : rule.comment = some comment) :
    IsAscii comment :=
  h _ (by simp [texts, hc])

theorem intrinsic (h : rule.HasAsciiTexts) {name : String} (hn : rule.intrinsic = some name) :
    IsAscii name :=
  h _ (by simp [texts, hn])

/-- A comparison without a comment prints a word for it, and that is ASCII too. -/
theorem comment_getD (h : rule.HasAsciiTexts) : IsAscii (rule.comment.getD Value.null.shown) := by
  rcases hc : rule.comment with - | comment
  · decide
  · exact h.comment hc

theorem intrinsicName (h : rule.HasAsciiTexts) : IsAscii rule.intrinsicName := by
  unfold Rule.intrinsicName
  rcases hn : rule.intrinsic with - | name
  · decide
  · by_cases hempty : name = ""
    · subst hempty
      decide
    · rw [Option.filter_some_pos (by simpa using hempty)]
      exact h.intrinsic hn

theorem moveName (h : rule.HasAsciiTexts) {verb : String} (hverb : IsAscii verb) :
    IsAscii (rule.moveName verb) := by
  have halignment : IsAscii (if rule.aligned then "aligned" else "unaligned") := by
    split <;> decide
  have hsuffix : IsAscii (rule.intrinsic.getD "") := by
    rcases hn : rule.intrinsic with - | name
    · exact isAscii_empty
    · exact h.intrinsic hn
  simp only [Rule.moveName, isAscii_append]
  exact ⟨⟨⟨⟨by decide, halignment⟩, by decide⟩, hverb⟩, hsuffix⟩

end HasAsciiTexts

variable {rule : Rule} (site : Site)

theorem HasAsciiTexts.vectorMove (h : rule.HasAsciiTexts) :
    (rule.vectorMove site).HasAsciiPieces := by
  have hopen : ∀ {verb : String}, IsAscii verb → IsAscii (rule.moveName verb ++ "(") :=
    fun hverb => isAscii_append.mpr ⟨h.moveName hverb, by decide⟩
  unfold Rule.vectorMove
  split
  · exact hasAsciiPieces_fail _
  · split
    · have hstore : IsAscii (rule.moveName "store" ++ "(") := hopen (by decide)
      exact ((((hasAsciiPieces_piece hstore).append (site.hasAsciiPieces_operand 0)).append
        (hasAsciiPieces_piece (by decide))).append site.hasAsciiPieces_sources).append
        (hasAsciiPieces_piece (by decide))
    · split
      · exact hasAsciiPieces_fail _
      · split
        · have hload : IsAscii (" = " ++ rule.moveName "load" ++ "(") := by
            simp only [isAscii_append]
            exact ⟨⟨by decide, h.moveName (by decide)⟩, by decide⟩
          exact (((site.hasAsciiPieces_operand 0).append (hasAsciiPieces_piece hload)).append
            site.hasAsciiPieces_sources).append (hasAsciiPieces_piece (by decide))
        · exact ((site.hasAsciiPieces_operand 0).append (hasAsciiPieces_piece (by decide))).append
            site.hasAsciiPieces_sources

theorem HasAsciiTexts.body (h : rule.HasAsciiTexts) : (rule.body site).HasAsciiPieces := by
  -- For each template the words between the operands; the operands are ASCII by themselves.
  unfold Rule.body
  cases rule.template with
  | assignment =>
    exact ((site.hasAsciiPieces_operand 0).append (hasAsciiPieces_piece h.operator)).append
      (site.hasAsciiPieces_operand 1)
  | comparison =>
    have hcomment : IsAscii (") // " ++ rule.comment.getD Value.null.shown) :=
      isAscii_append.mpr ⟨by decide, h.comment_getD⟩
    exact ((((hasAsciiPieces_piece (by decide)).append (site.hasAsciiPieces_operand 0)).append
      (hasAsciiPieces_piece (by decide))).append (site.hasAsciiPieces_operand 1)).append
      (hasAsciiPieces_piece hcomment)
  | call =>
    exact ((hasAsciiPieces_piece (by decide)).append (site.hasAsciiPieces_operand 0)).append
      (hasAsciiPieces_piece (by decide))
  | jump => exact (hasAsciiPieces_piece (by decide)).append (site.hasAsciiPieces_operand 0)
  | conditionalBranch =>
    have hpredicate : IsAscii ("if (" ++ rule.predicate ++ ") goto ") := by
      simp only [isAscii_append]
      exact ⟨⟨by decide, h.predicate⟩, by decide⟩
    refine ((hasAsciiPieces_piece hpredicate).append (site.hasAsciiPieces_operand 0)).append ?_
    rcases hc : rule.comment with - | comment
    · exact hasAsciiPieces_empty
    · exact hasAsciiPieces_piece (isAscii_append.mpr ⟨by decide, h.comment hc⟩)
  | vectorMove => exact h.vectorMove site
  | vectorFunction =>
    have hname : IsAscii (" = " ++ rule.intrinsicName ++ "(") := by
      simp only [isAscii_append]
      exact ⟨⟨by decide, h.intrinsicName⟩, by decide⟩
    exact (((site.hasAsciiPieces_operand 0).append (hasAsciiPieces_piece hname)).append
      site.hasAsciiPieces_sources).append (hasAsciiPieces_piece (by decide))

/-- A rule with ASCII words makes ASCII statements, whatever the operands are. -/
theorem HasAsciiTexts.statement (h : rule.HasAsciiTexts) :
    (rule.statement site).HasAsciiPieces := by
  unfold Rule.statement
  refine (h.body site).append ?_
  split
  · exact hasAsciiPieces_piece (by decide)
  · exact hasAsciiPieces_empty

end Rule

/-! ### Tables -/

namespace RuleTable

/-- Every rule of the table has ASCII words. A listed mnemonic without a rule does no harm. -/
def HasAsciiTexts (table : RuleTable) : Prop :=
  ∀ mnemonic rule, table.rule? mnemonic = some rule → rule.HasAsciiTexts

/-- A table of a list has ASCII words when the rules of the list do. -/
theorem hasAsciiTexts_ofList {entries : List (Mnemonic × Option Rule)}
    (h : ∀ entry ∈ entries, ∀ rule ∈ entry.2, rule.HasAsciiTexts) :
    (ofList entries).HasAsciiTexts := by
  intro mnemonic rule hrule
  have hlookup : entries.lookup mnemonic = some (some rule) := Option.join_eq_some_iff.mp hrule
  obtain ⟨before, after, hsplit, -⟩ := List.lookup_eq_some_iff.mp hlookup
  exact h (mnemonic, some rule) (by simp [hsplit]) rule rfl

theorem hasAsciiTexts_standard : standard.HasAsciiTexts := by
  intro mnemonic rule hrule
  rw [rule?_standard] at hrule
  exact of_standardRule? (by decide +kernel) hrule

end RuleTable

end X86Gloss
