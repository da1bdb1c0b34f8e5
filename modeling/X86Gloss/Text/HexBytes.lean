/-
X86Gloss/Text/HexBytes.lean

Bytes written in hex. Before the digits are paired, the markers `\x` and `0x` are deleted,
and blanks and commas are dropped; `89d8`, `89 d8`, `0x89, 0xd8` and `\x89\xd8` all name the
same two bytes. A text that is no such spelling is refused with the place of the first
character that does not fit, counted in the cleaned text; a character beyond ASCII is
reported before any other.
-/
import X86Gloss.Text.Blank
import X86Gloss.Text.Numeral

namespace X86Gloss.HexBytes

/-- Why a text names no bytes: the index of the offending character after cleaning. -/
structure Fault where
  position : Nat
deriving DecidableEq

/-- The fault in words. -/
def Fault.message (fault : Fault) : String :=
  "non-hexadecimal number found in fromhex() arg at position " ++ fault.position.repr

/-- The text without the pairs `first second`, deleted from left to right. -/
def deletePair (first second : Char) : List Char → List Char
  | a :: b :: rest =>
    if a = first && b = second then deletePair first second rest
    else a :: deletePair first second (b :: rest)
  | text => text

/-- What separates bytes: a comma or a blank. -/
def isSeparator (c : Char) : Bool := c = ',' || isBlank c

/-- The text without markers and separators. -/
def clean (text : List Char) : List Char :=
  (deletePair '0' 'x' (deletePair '\\' 'x' text)).filter fun c => !isSeparator c

/-- The value of a hex digit in either case. -/
def digit? (c : Char) : Option Nat :=
  if '0' ≤ c && c ≤ '9' then some (c.toNat - 0x30)
  else if 'a' ≤ c && c ≤ 'f' then some (c.toNat - 0x61 + 10)
  else if 'A' ≤ c && c ≤ 'F' then some (c.toNat - 0x41 + 10)
  else none

/-- Pairs of digits to the end of the text; `position` is the index of its first character. -/
def pairs (position : Nat) : List Char → Except Fault (List UInt8)
  | [] => .ok []
  | [c] => .error ⟨if (digit? c).isSome then position + 1 else position⟩
  | high :: low :: rest =>
    match digit? high, digit? low with
    | none, _ => .error ⟨position⟩
    | some _, none => .error ⟨position + 1⟩
    | some h, some l => (pairs (position + 2) rest).map (UInt8.ofNat (16 * h + l) :: ·)

/-- The bytes that cleaned text names. -/
def ofCleaned (text : List Char) : Except Fault (List UInt8) :=
  match text.findIdx? fun c => 0x80 ≤ c.toNat with
  | some position => .error ⟨position⟩
  | none => pairs 0 text

/-- The bytes that a text names. -/
def ofText (text : String) : Except Fault (List UInt8) := ofCleaned (clean text.toList)

/-- One byte as two lower case digits. -/
def byteDigits (byte : UInt8) : List Char :=
  [Nat.digitChar (byte.toNat / 16), Nat.digitChar (byte.toNat % 16)]

/-- Bytes in lower case hex, without separators. -/
def toText (bytes : List UInt8) : String := String.ofList (bytes.flatMap byteDigits)

end X86Gloss.HexBytes
