/-
X86Gloss/Text/Numeral.lean

Integers as text. A statement shows numbers as 64-bit words: every integer is first reduced
modulo 2^64, and then written without a sign, with a sign (two's complement), or in upper
case hex. Addresses in messages and listings are written whole, with a sign and lower case
hex.
-/
namespace X86Gloss.Numeral

/-- The number of values of a 64-bit word. -/
def wordCount : Nat := 0x10000000000000000

/-- The largest 64-bit word. -/
def maxWord : Int := 0xffffffffffffffff

/-- The least signed 64-bit word. -/
def minSigned : Int := -0x8000000000000000

/-- The largest signed 64-bit word. -/
def maxSigned : Int := 0x7fffffffffffffff

/-- The 64-bit word that an integer is congruent to. -/
def word (value : Int) : Nat := (value % (wordCount : Int)).toNat

/-- The signed reading of the 64-bit word that an integer is congruent to. -/
def signedWord (value : Int) : Int := value.bmod wordCount

/-- Decimal digits of the word. -/
def unsigned (value : Int) : String := (word value).repr

/-- The sign, when there is one, and the digits of the signed reading, apart. -/
def signedPieces (value : Int) : List String :=
  if signedWord value < 0 then ["-", unsigned (-signedWord value)]
  else [unsigned (signedWord value)]

/-- Sign and digits of the signed reading. -/
def signed (value : Int) : String :=
  if signedWord value < 0 then "-" ++ unsigned (-signedWord value)
  else unsigned (signedWord value)

/-- Hex digits of the word in upper case, after `0x`. -/
def hex (value : Int) : String :=
  "0x" ++ String.ofList ((Nat.toDigits 16 (word value)).map Char.toUpper)

/-- The sign of an integer as it stands before its digits. -/
def sign (value : Int) : String := if value < 0 then "-" else ""

/-- An integer of any size in lower case hex, with its sign and `0x`. -/
def lowerHex (value : Int) : String :=
  sign value ++ "0x" ++ String.ofList (Nat.toDigits 16 value.natAbs)

/-- `lowerHex` filled with zeros after `0x` up to a width that counts sign and `0x`. -/
def paddedHex (width : Nat) (value : Int) : String :=
  let digits := Nat.toDigits 16 value.natAbs
  let room := width - (sign value).length - 2
  sign value ++ "0x" ++ String.ofList (List.replicate (room - digits.length) '0' ++ digits)

/-- The zeros make up the width, and no digit is lost where there is none to fill. -/
theorem length_paddedHex (width : Nat) (value : Int) :
    (paddedHex width value).length = max width (lowerHex value).length := by
  simp only [paddedHex, lowerHex, String.length_append, String.length_ofList, List.length_append,
    List.length_replicate]
  have hmarker : "0x".length = 2 := rfl
  omega

/-- An integer of any size in decimal. However long the numeral is, it is written; only reading
has a limit on the digits (`Integer.maxDigits`). -/
def decimal (value : Int) : String := sign value ++ value.natAbs.repr

end X86Gloss.Numeral
