/-
X86Gloss/Proofs/Text/HexTokens.lean

Texts that name bytes, token by token. The tokens of a text are the runs of characters between its
separators. No separator has a part in a marker, so the digits of a text are those of its tokens
(`clean_eq_flatMap_words`), and that is all that reading looks at: the digits are paired across the
whole text, and two tokens with an odd number of digits can share a byte.

`ofText_tokens` gives the exact condition. A text can be read token by token, with the same bytes,
if it is accepted and none of its tokens has an odd number of digits. A pair of tokens that share a
byte is in `not_forall_readsByToken`.
-/
import Mathlib.Data.List.Forall2
import X86Gloss.Proofs.Text.HexBytes
import X86Gloss.Proofs.Text.Words

namespace X86Gloss.HexBytes

/-! ### Words between separators -/

/-- The runs of characters between separators. -/
def words (text : List Char) : List (List Char) :=
  (text.splitOnP isSeparator).filter fun word => !word.isEmpty

theorem words_append_separator {c : Char} (hc : isSeparator c = true) (first rest : List Char) :
    words (first ++ c :: rest) = words first ++ words rest :=
  wordsBy_append_cons hc first rest

theorem words_of_unseparated {word : List Char} (h : ∀ c ∈ word, isSeparator c = false) :
    words word = if word.isEmpty then [] else [word] :=
  wordsBy_of_unbroken h

/-- A separator keeps apart what stands before and behind it. -/
theorem clean_append_separator {c : Char} (hc : isSeparator c = true) (first rest : List Char) :
    clean (first ++ c :: rest) = clean first ++ clean rest := by
  have hslash : c ≠ '\\' := by
    rintro rfl
    exact absurd hc (by decide)
  have hzero : c ≠ '0' := by
    rintro rfl
    exact absurd hc (by decide)
  -- A separator begins the second text, and the first pass leaves it there.
  have hhead : (deletePair '\\' 'x' (c :: rest)).head? ≠ some 'x' := by
    rw [deletePair_cons_of_ne hslash, List.head?_cons]
    exact fun h => ne_x_of_isSeparator hc (Option.some.inj h)
  have hdropped : clean (c :: rest) = clean rest := by
    rw [clean, deletePair_cons_of_ne hslash, deletePair_cons_of_ne hzero,
      List.filter_cons_of_neg (by rw [hc]; decide)]
    rfl
  rw [clean_append_of_head hhead, hdropped]

theorem clean_of_unseparated {word : List Char} (h : ∀ c ∈ word, isSeparator c = false) :
    clean word = (words word).flatMap clean := by
  rw [words_of_unseparated h]
  rcases word with - | ⟨c, word⟩
  · rfl
  · rw [List.isEmpty_cons, if_neg Bool.false_ne_true, List.flatMap_singleton]

/-- The digits of a text are the digits of its words. -/
theorem clean_eq_flatMap_words (text : List Char) : clean text = (words text).flatMap clean := by
  -- Along the text; what was read of the word at hand stands before it.
  suffices hgeneral : ∀ front : List Char, (∀ c ∈ front, isSeparator c = false) →
      clean (front ++ text) = (words (front ++ text)).flatMap clean from
    hgeneral [] fun c hc => absurd hc List.not_mem_nil
  induction text with
  | nil =>
    intro front hfront
    rw [List.append_nil]
    exact clean_of_unseparated hfront
  | cons c rest ih =>
    intro front hfront
    by_cases hc : isSeparator c = true
    · rw [clean_append_separator hc, words_append_separator hc, List.flatMap_append,
        clean_of_unseparated hfront]
      exact congrArg _ (ih [] fun c hc => absurd hc List.not_mem_nil)
    · have hlonger : ∀ d ∈ front ++ [c], isSeparator d = false := by
        intro d hd
        rcases List.mem_append.mp hd with hd | hd
        · exact hfront d hd
        · rw [List.mem_singleton.mp hd]
          exact Bool.not_eq_true _ ▸ hc
      rw [List.append_cons]
      exact ih (front ++ [c]) hlonger

/-! ### Rows cut into rows -/

/-- A row is cut between bytes behind an even number of digits. -/
theorem Names.split {row row' : List Char} {bytes : List UInt8} (h : Names (row ++ row') bytes)
    (heven : row.length % 2 = 0) :
    ∃ front back, front ++ back = bytes ∧ Names row front ∧ Names row' back := by
  match row with
  | [] => exact ⟨[], bytes, rfl, .nothing, h⟩
  | [_] => cases heven
  | high :: low :: row =>
    obtain - | ⟨hhigh, hlow, hrest⟩ := h
    have hshorter : row.length % 2 = 0 := by
      simp only [List.length_cons] at heven
      omega
    obtain ⟨front, back, rfl, hfront, hback⟩ := hrest.split hshorter
    exact ⟨_, back, rfl, .byte hhigh hlow hfront, hback⟩

/-- Rows can be read one by one, with the bytes that they name together, if none has an odd number
of digits. -/
theorem names_one_by_one_iff {rows : List (List Char)} {bytes : List UInt8} :
    (∃ parts, List.Forall₂ Names rows parts ∧ parts.flatten = bytes)
      ↔ Names rows.flatten bytes ∧ ∀ row ∈ rows, row.length % 2 = 0 := by
  induction rows generalizing bytes with
  | nil =>
    constructor
    · rintro ⟨parts, hparts, rfl⟩
      cases hparts
      exact ⟨.nothing, fun row hrow => absurd hrow List.not_mem_nil⟩
    · rintro ⟨hnames, -⟩
      cases hnames
      exact ⟨[], .nil, rfl⟩
  | cons row rows ih =>
    rw [List.flatten_cons, List.forall_mem_cons]
    constructor
    · rintro ⟨parts, hparts, rfl⟩
      obtain ⟨part, parts, hpart, hrest, rfl⟩ := List.forall₂_cons_left_iff.mp hparts
      obtain ⟨hnames, heven⟩ := ih.mp ⟨parts, hrest, rfl⟩
      have hlength := hpart.length_eq
      exact ⟨hpart.append hnames, by omega, heven⟩
    · rintro ⟨hnames, heven, hrest⟩
      -- The first row has an even number of digits, so no byte reaches into the next one.
      obtain ⟨front, back, rfl, hfront, hback⟩ := hnames.split heven
      obtain ⟨parts, hparts, rfl⟩ := ih.mpr ⟨hback, hrest⟩
      exact ⟨front :: parts, .cons hfront hparts, rfl⟩

/-! ### Tokens -/

/-- The tokens of a text. -/
def tokens (text : String) : List String := (words text.toList).map String.ofList

/-- The characters that are left of a token. -/
def digits (token : String) : List Char := clean token.toList

/-- Every token of the text names bytes on its own, and these together are the bytes. -/
def ReadsByToken (text : String) (bytes : List UInt8) : Prop :=
  ∃ parts, List.Forall₂ (fun token part => ofText token = .ok part) (tokens text) parts
    ∧ parts.flatten = bytes

theorem map_digits_tokens (text : String) :
    (tokens text).map digits = (words text.toList).map clean := by
  rw [tokens, List.map_map]
  refine List.map_congr_left fun word _ => ?_
  simp only [Function.comp_apply, digits, String.toList_ofList]

theorem readsByToken_iff {text : String} {bytes : List UInt8} :
    ReadsByToken text bytes
      ↔ ∃ parts, List.Forall₂ Names ((tokens text).map digits) parts ∧ parts.flatten = bytes := by
  simp only [ReadsByToken, List.forall₂_map_left_iff, ofText_eq_ok_iff, digits]

/-- **Digits are paired across tokens.**  A text is accepted if the digits of its tokens, all in one
row, name bytes. It can also be read token by token, and then names the same bytes, exactly if none
of its tokens has an odd number of digits. -/
theorem ofText_tokens (text : String) (bytes : List UInt8) :
    (ofText text = .ok bytes ↔ Names ((tokens text).flatMap digits) bytes)
    ∧ (ReadsByToken text bytes
      ↔ ofText text = .ok bytes ∧ ∀ token ∈ tokens text, (digits token).length % 2 = 0) := by
  have hdigits : (tokens text).flatMap digits = clean text.toList := by
    rw [clean_eq_flatMap_words, List.flatMap_def, List.flatMap_def, map_digits_tokens]
  have hread : ofText text = .ok bytes ↔ Names ((tokens text).flatMap digits) bytes := by
    rw [hdigits]
    exact ofText_eq_ok_iff
  refine ⟨hread, ?_⟩
  rw [readsByToken_iff, names_one_by_one_iff, ← List.flatMap_def, ← hread, List.forall_mem_map]

/-- Tokens that hold several bytes, markers, or nothing else. -/
theorem readsByToken_mixed : ReadsByToken "0x89, 4839\\xc8 \\x\n" [0x89, 0x48, 0x39, 0xc8] := by
  have htokens : tokens "0x89, 4839\\xc8 \\x\n" = ["0x89", "4839\\xc8", "\\x"] := by
    decide +kernel
  refine (ofText_tokens _ _).2.mpr ⟨rfl, ?_⟩
  rw [htokens]
  decide +kernel

/-- Two digits, each with a marker of its own and a comma between them, are one byte. -/
theorem not_forall_readsByToken :
    ¬ ∀ text bytes, ofText text = .ok bytes → ReadsByToken text bytes := by
  intro h
  obtain ⟨parts, hparts, -⟩ := h "0x1, 0x2" [0x12] rfl
  have htokens : tokens "0x1, 0x2" = ["0x1", "0x2"] := by decide +kernel
  rw [htokens] at hparts
  obtain ⟨part, -, hpart, -⟩ := List.forall₂_cons_left_iff.mp hparts
  have hodd : ofText "0x1" = .error ⟨1⟩ := rfl
  cases hodd.symm.trans hpart

end X86Gloss.HexBytes
