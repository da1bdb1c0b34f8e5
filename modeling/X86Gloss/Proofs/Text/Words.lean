/-
X86Gloss/Proofs/Text/Words.lean

The words of a text are its runs of characters between breaks. All that is said here about them
comes from two equations: a break parts the words before it from those behind it
(`wordsBy_append_cons`), and what holds no break is one word at most (`wordsBy_of_unbroken`). So
breaks around a text do not count, and the words change with their characters if breaks stay breaks.

With blanks for breaks, the last run that `lastWord` cuts off is the last of the words
(`getLast?_wordsBy_isBlank`), because the cut passes over the blanks behind it first.
-/
import Mathlib.Data.List.TakeWhile
import X86Gloss.Text.Blank

namespace X86Gloss

/-! ### Words between breaks -/

section

variable {p : Char → Bool}

/-- The runs of characters between the characters that satisfy `p`. -/
def wordsBy (p : Char → Bool) (text : List Char) : List (List Char) :=
  (text.splitOnP p).filter fun word => !word.isEmpty

theorem wordsBy_append_cons {c : Char} (hc : p c = true) (first rest : List Char) :
    wordsBy p (first ++ c :: rest) = wordsBy p first ++ wordsBy p rest := by
  rw [wordsBy, List.splitOnP_append_cons first rest hc, List.filter_append]
  rfl

theorem wordsBy_of_unbroken {word : List Char} (h : ∀ c ∈ word, p c = false) :
    wordsBy p word = if word.isEmpty then [] else [word] := by
  rw [wordsBy, List.splitOnP_eq_singleton h]
  cases word <;> rfl

theorem wordsBy_nil : wordsBy p [] = [] := wordsBy_of_unbroken (List.forall_mem_nil _)

theorem wordsBy_cons {c : Char} (hc : p c = true) (rest : List Char) :
    wordsBy p (c :: rest) = wordsBy p rest := by
  rw [← List.nil_append (c :: rest), wordsBy_append_cons hc, wordsBy_nil, List.nil_append]

theorem wordsBy_eq_nil_of_all {gap : List Char} (h : ∀ c ∈ gap, p c = true) :
    wordsBy p gap = [] := by
  induction gap with
  | nil => exact wordsBy_nil
  | cons c gap ih =>
    obtain ⟨hc, hgap⟩ := List.forall_mem_cons.mp h
    rw [wordsBy_cons hc, ih hgap]

/-- Breaks at the end do not count. -/
theorem wordsBy_append_gap (text : List Char) {gap : List Char} (h : ∀ c ∈ gap, p c = true) :
    wordsBy p (text ++ gap) = wordsBy p text := by
  rcases gap with - | ⟨c, gap⟩
  · rw [List.append_nil]
  · obtain ⟨hc, hgap⟩ := List.forall_mem_cons.mp h
    rw [wordsBy_append_cons hc, wordsBy_eq_nil_of_all hgap, List.append_nil]

/-- Nor do those at the beginning. -/
theorem wordsBy_dropWhile (text : List Char) : wordsBy p (text.dropWhile p) = wordsBy p text := by
  induction text with
  | nil => rfl
  | cons c rest ih =>
    by_cases hc : p c = true
    · rw [List.dropWhile_cons_of_pos hc, ih, wordsBy_cons hc]
    · rw [List.dropWhile_cons_of_neg hc]

theorem wordsBy_trimBoth (text : List Char) : wordsBy p (trimBoth p text) = wordsBy p text := by
  rw [← wordsBy_dropWhile text, trimBoth, dropWhileEnd]
  generalize text.dropWhile p = rest
  -- What is trimmed off at the end is the gap behind the rest.
  have hgap : ∀ c ∈ (rest.reverse.takeWhile p).reverse, p c = true :=
    fun c hc => List.mem_takeWhile_imp (List.mem_reverse.mp hc)
  have hrest : (rest.reverse.dropWhile p).reverse ++ (rest.reverse.takeWhile p).reverse = rest := by
    rw [← List.reverse_append, List.takeWhile_append_dropWhile, List.reverse_reverse]
  rw [← wordsBy_append_gap _ hgap, hrest]

/-- Breaks stay breaks under the map, and so words stay words. -/
theorem wordsBy_map {f : Char → Char} (hf : ∀ c, p (f c) = p c) (text : List Char) :
    wordsBy p (text.map f) = (wordsBy p text).map (List.map f) := by
  -- The runs correspond before the empty ones are left out, and a run is empty just if its image
  -- is.
  have hruns : (text.map f).splitOnP p = (text.splitOnP p).map (List.map f) := by
    induction text with
    | nil => rfl
    | cons c rest ih =>
      rw [List.map_cons, List.splitOnP_cons_eq_if_modifyHead, List.splitOnP_cons_eq_if_modifyHead,
        hf, ih]
      split
      · rfl
      · cases rest.splitOnP p <;> rfl
  rw [wordsBy, hruns, List.filter_map, wordsBy]
  congr 2
  funext word
  cases word <;> rfl

end

/-! ### The last word -/

/-- The words of a text that is cut at blanks. -/
def words (text : String) : List String := (wordsBy isBlank text.toList).map String.ofList

theorem notBlank_of_mem_lastWord {text : List Char} {c : Char} (h : c ∈ lastWord text) :
    isBlank c = false := by
  have hc := List.mem_takeWhile_imp (List.mem_reverse.mp h)
  simpa using hc

theorem mem_of_mem_lastWord {text : List Char} {c : Char} (h : c ∈ lastWord text) : c ∈ text := by
  have hc := (List.takeWhile_sublist _).subset (List.mem_reverse.mp h)
  exact List.mem_reverse.mp ((List.dropWhile_sublist _).subset hc)

/-- The last word stands before the blanks at the end and behind a blank, if anything is there. -/
theorem exists_eq_append_lastWord (text : List Char) :
    ∃ front gap, text = front ++ (lastWord text ++ gap) ∧ (∀ c ∈ gap, isBlank c = true)
      ∧ (front = []
        ∨ lastWord text ≠ [] ∧ ∃ before c, front = before ++ [c] ∧ isBlank c = true) := by
  -- The cut goes from the end: first over the blanks, then over what is none.
  have htext : text.reverse = text.reverse.takeWhile isBlank ++ text.reverse.dropWhile isBlank :=
    List.takeWhile_append_dropWhile.symm
  have hgap : ∀ c ∈ text.reverse.takeWhile isBlank, isBlank c = true :=
    fun c hc => List.mem_takeWhile_imp hc
  have hhead := List.head?_dropWhile_not isBlank text.reverse
  unfold lastWord
  generalize text.reverse.takeWhile isBlank = gap at htext hgap
  generalize text.reverse.dropWhile isBlank = rest at htext hhead ⊢
  have hrest : rest
      = rest.takeWhile (fun c => !isBlank c) ++ rest.dropWhile (fun c => !isBlank c) :=
    List.takeWhile_append_dropWhile.symm
  refine ⟨(rest.dropWhile fun c => !isBlank c).reverse, gap.reverse, ?_, ?_, ?_⟩
  · rw [← List.reverse_append, ← List.reverse_append, List.append_assoc, ← hrest, ← htext,
      List.reverse_reverse]
  · exact fun c hc => hgap c (List.mem_reverse.mp hc)
  · rcases hfront : rest.dropWhile (fun c => !isBlank c) with - | ⟨c, before⟩
    · exact .inl rfl
    · have hc := List.head?_dropWhile_not (fun c => !isBlank c) rest
      rw [hfront] at hc
      have hblank : isBlank c = true := by simpa using hc
      refine .inr ⟨?_, before.reverse, c, List.reverse_cons, hblank⟩
      -- Otherwise a blank would be the first that is left after blanks were dropped.
      intro hempty
      rw [List.reverse_eq_nil_iff.mp hempty, List.nil_append, hfront] at hrest
      rw [hrest, List.head?_cons] at hhead
      exact absurd hblank (by simpa using hhead)

theorem getLast?_wordsBy_isBlank (text : List Char) :
    (wordsBy isBlank text).getLast?
      = if (lastWord text).isEmpty then none else some (lastWord text) := by
  obtain ⟨front, gap, htext, hgap, hfront⟩ := exists_eq_append_lastWord text
  have hword : wordsBy isBlank (lastWord text)
      = if (lastWord text).isEmpty then [] else [lastWord text] :=
    wordsBy_of_unbroken fun c hc => notBlank_of_mem_lastWord hc
  have hdropped : wordsBy isBlank text = wordsBy isBlank (front ++ lastWord text) := by
    have hsplit : text = front ++ lastWord text ++ gap := by
      rw [List.append_assoc]
      exact htext
    exact (congrArg (wordsBy isBlank) hsplit).trans (wordsBy_append_gap _ hgap)
  rw [hdropped]
  rcases hfront with rfl | ⟨hne, before, c, rfl, hc⟩
  · rw [List.nil_append, hword]
    split <;> rfl
  · rw [List.append_assoc, List.singleton_append, wordsBy_append_cons hc, hword,
      if_neg (by simpa using hne), if_neg (by simpa using hne), List.getLast?_append,
      List.getLast?_singleton, Option.some_or]

theorem lastWord_eq_getD (text : List Char) :
    lastWord text = ((wordsBy isBlank text).getLast?).getD [] := by
  rw [getLast?_wordsBy_isBlank]
  split
  · rename_i hempty
    exact List.isEmpty_iff.mp hempty
  · rfl

/-- The last word, as a text. -/
theorem getLast?_words_eq_some_iff {text word : String} :
    (words text).getLast? = some word ↔ word ≠ "" ∧ lastWord text.toList = word.toList := by
  have hempty : word ≠ "" ↔ word.toList ≠ [] := by
    rw [ne_eq, ← String.toList_inj]
    rfl
  rw [words, List.getLast?_map, getLast?_wordsBy_isBlank, hempty]
  split
  · rename_i hnone
    rw [List.isEmpty_iff] at hnone
    rw [hnone]
    constructor
    · exact nofun
    · rintro ⟨hne, heq⟩
      exact absurd heq.symm hne
  · rename_i hsome
    rw [List.isEmpty_iff] at hsome
    rw [Option.map_some, Option.some.injEq]
    constructor
    · rintro rfl
      rw [String.toList_ofList]
      exact ⟨hsome, rfl⟩
    · rintro ⟨-, heq⟩
      rw [heq, String.ofList_toList]

/-- A last word is the last word of itself. -/
theorem getLast?_words_self {text word : String} (h : (words text).getLast? = some word) :
    (words word).getLast? = some word := by
  obtain ⟨hne, hlast⟩ := getLast?_words_eq_some_iff.mp h
  refine getLast?_words_eq_some_iff.mpr ⟨hne, ?_⟩
  have hblank : ∀ c ∈ word.toList, isBlank c = false := by
    intro c hc
    rw [← hlast] at hc
    exact notBlank_of_mem_lastWord hc
  have hempty : word.toList.isEmpty = false := by
    rw [List.isEmpty_eq_false_iff]
    exact fun hnil => hne (String.toList_inj.mp hnil)
  rw [lastWord_eq_getD, wordsBy_of_unbroken hblank, hempty]
  rfl

/-- A text without a word is all blank. -/
theorem isBlank_of_words_eq_nil {text : String} (h : words text = []) :
    ∀ c ∈ text.toList, isBlank c = true := by
  obtain ⟨front, gap, htext, hgap, hfront⟩ := exists_eq_append_lastWord text.toList
  have hnone : lastWord text.toList = [] := by
    rw [lastWord_eq_getD, List.map_eq_nil_iff.mp h]
    rfl
  rcases hfront with rfl | ⟨hne, -⟩
  · rw [hnone, List.nil_append, List.nil_append] at htext
    rw [htext]
    exact hgap
  · exact absurd hnone hne

end X86Gloss
