/-
X86Gloss/Text/Case.lean

Upper and lower case of a whole text. A character may become several (the sharp s, the
ligatures, the dotted capital I), and a capital sigma becomes the final form at the end of a
word: where a cased character stands before it and none after it, passing over characters
that have no case of their own.
-/
import X86Gloss.Text.CaseTable

namespace X86Gloss

/-- The image of a character under a mapping with runs and expansions. -/
def caseImage (runs : List CaseRun) (expansions : List (Nat × List Nat)) (c : Char) : List Char :=
  match runs.findSome? (CaseRun.image? · c.toNat) with
  | some code => [Char.ofNat code]
  | none =>
    match expansions.lookup c.toNat with
    | some codes => codes.map Char.ofNat
    | none => [c]

/-- The upper case form of one character; `Char.toUpper` decides below U+0080. -/
def upperChar (c : Char) : List Char :=
  if c.toNat < 0x80 then [c.toUpper] else caseImage upperRuns upperExpansions c

/-- The lower case form of one character away from any neighbours. -/
def lowerChar (c : Char) : List Char :=
  if c.toNat < 0x80 then [c.toLower] else caseImage lowerRuns lowerExpansions c

/-- The first character with a say, passing over those without a case of their own. -/
def nextIsCased (text : List Char) : Bool :=
  match text.dropWhile caselessRanges.covers with
  | c :: _ => casedRanges.covers c
  | [] => false

/-- Lower case from left to right; `before` holds the characters on the left, nearest first. -/
def lowerAfter (before : List Char) : List Char → List Char
  | [] => []
  | c :: rest =>
    let image :=
      if c = '\u03a3' then
        [if nextIsCased before && !nextIsCased rest then '\u03c2' else '\u03c3']
      else
        lowerChar c
    image ++ lowerAfter (c :: before) rest

/-- The text in upper case. -/
def upperCase (text : String) : String := String.ofList (text.toList.flatMap upperChar)

/-- The text in lower case. -/
def lowerCase (text : String) : String := String.ofList (lowerAfter [] text.toList)

/-- Characters that lower case treats one by one, with the result of `Char.toLower`. -/
theorem lowerAfter_eq_map (before text : List Char)
    (h : ∀ c ∈ text, c ≠ '\u03a3' ∧ lowerChar c = [c.toLower]) :
    lowerAfter before text = text.map Char.toLower := by
  induction text generalizing before with
  | nil => rfl
  | cons c rest ih =>
    obtain ⟨⟨hsigma, himage⟩, hrest⟩ := List.forall_mem_cons.mp h
    simp [lowerAfter, hsigma, himage, ih _ hrest]

end X86Gloss
