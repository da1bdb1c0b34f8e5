/-
X86Gloss/Text/Integer.lean

Reading an integer from a text that a person typed. Blanks around it, a sign, single
underscores between digits and digits of any script are fine. `Integer.ofDecimal?` reads
base ten; `Integer.ofLiteral?` also knows the markers `0x`, `0o` and `0b`, and refuses a
number that starts with a zero and is not zero.
-/
import X86Gloss.Text.Blank
import X86Gloss.Text.Digit

namespace X86Gloss.Integer

/-- A decimal numeral with more digits than this is refused. -/
def maxDigits : Nat := 4300

/-- A character beyond ASCII as the space or the ASCII digit that it stands for. -/
def plainChar (c : Char) : Char :=
  if c.toNat < 0x80 then c
  else if isBlank c then ' '
  else
    match decimalValue? c with
    | some value => Char.ofNat (0x30 + value)
    | none => c

/-- Of the ASCII blanks, those that may stand around a number. -/
def isPadding (c : Char) : Bool := c = ' ' || (0x09 ≤ c.toNat && c.toNat ≤ 0x0d)

/-- The value of an ASCII digit or letter in a base. -/
def digitValue? (base : Nat) (c : Char) : Option Nat :=
  let value? :=
    if '0' ≤ c && c ≤ '9' then some (c.toNat - 0x30)
    else if 'a' ≤ c && c ≤ 'z' then some (c.toNat - 0x61 + 10)
    else if 'A' ≤ c && c ≤ 'Z' then some (c.toNat - 0x41 + 10)
    else none
  value?.filter (· < base)

/-- Digits to the end of the text, each but the first perhaps after one underscore; `value` is
the number read so far. -/
def digitsAfter? (base value : Nat) : List Char → Option Nat
  | [] => some value
  | '_' :: d :: rest => (digitValue? base d).bind fun x => digitsAfter? base (value * base + x) rest
  | d :: rest => (digitValue? base d).bind fun x => digitsAfter? base (value * base + x) rest

/-- One or more digits, with single underscores between them. -/
def digits? (base : Nat) : List Char → Option Nat
  | [] => none
  | d :: rest => (digitValue? base d).bind fun x => digitsAfter? base x rest

/-- Decimal digits, not too many. -/
def decimalDigits? (text : List Char) : Option Nat :=
  if (text.filter (· ≠ '_')).length ≤ maxDigits then digits? 10 text else none

/-- The digits after a base marker, which one underscore may separate. -/
def markedDigits? (base : Nat) : List Char → Option Nat
  | '_' :: rest => digits? base rest
  | text => digits? base text

/-- Digits whose base is told by a marker in front; without one they are decimal, and a leading
zero then leaves only zero. -/
def literalDigits? : List Char → Option Nat
  | '0' :: 'x' :: rest => markedDigits? 16 rest
  | '0' :: 'X' :: rest => markedDigits? 16 rest
  | '0' :: 'o' :: rest => markedDigits? 8 rest
  | '0' :: 'O' :: rest => markedDigits? 8 rest
  | '0' :: 'b' :: rest => markedDigits? 2 rest
  | '0' :: 'B' :: rest => markedDigits? 2 rest
  | '0' :: rest => (decimalDigits? ('0' :: rest)).filter (· = 0)
  | text => decimalDigits? text

/-- A sign and what it applies to. -/
def signed? (magnitude? : List Char → Option Nat) : List Char → Option Int
  | '-' :: rest => (magnitude? rest).map fun n => -(n : Int)
  | '+' :: rest => (magnitude? rest).map fun n => (n : Int)
  | text => (magnitude? text).map fun n => (n : Int)

/-- The characters of a number without the padding around it. -/
def body (text : String) : List Char := trimBoth isPadding (text.toList.map plainChar)

/-- An integer in base ten. -/
def ofDecimal? (text : String) : Option Int := signed? decimalDigits? (body text)

/-- An integer in base ten or in the base that its marker tells. -/
def ofLiteral? (text : String) : Option Int := signed? literalDigits? (body text)

end X86Gloss.Integer
