/-
X86Gloss/Text/Blank.lean

Blank characters and the two cuts that use them: a text without the blanks around it, and
the last word of a text. The class is the white space of Unicode together with the four
information separators U+001C to U+001F. A zero width space is not blank.
-/
import X86Gloss.Text.CodeRanges

namespace X86Gloss

/-- The blank code points. -/
def blankRanges : CodeRanges := [
  (0x09, 0x0d), (0x1c, 0x20), (0x85, 0x85), (0xa0, 0xa0), (0x1680, 0x1680), (0x2000, 0x200a),
  (0x2028, 0x2029), (0x202f, 0x202f), (0x205f, 0x205f), (0x3000, 0x3000)]

/-- White space of every script. -/
def isBlank (c : Char) : Bool := blankRanges.covers c

/-- The characters up to the last that fails `p`. -/
def dropWhileEnd (p : Char → Bool) (text : List Char) : List Char :=
  (text.reverse.dropWhile p).reverse

/-- The characters without those that satisfy `p` at either end. -/
def trimBoth (p : Char → Bool) (text : List Char) : List Char :=
  dropWhileEnd p (text.dropWhile p)

/-- The text without the blanks around it. -/
def trimBlanks (text : String) : String := String.ofList (trimBoth isBlank text.toList)

/-- The last run of characters that are not blank, empty when there is none. -/
def lastWord (text : List Char) : List Char :=
  ((text.reverse.dropWhile isBlank).takeWhile fun c => !isBlank c).reverse

end X86Gloss
