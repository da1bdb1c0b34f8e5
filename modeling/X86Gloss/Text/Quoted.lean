/-
X86Gloss/Text/Quoted.lean

Quoted text, as messages show what was given to them: between single quotes, or double
quotes when the text holds a single one and no double one. The quote in use and the
backslash are escaped by a backslash, tab, line feed and carriage return have short escapes,
and every other character that is not printable is written by its code point.
-/
import X86Gloss.Text.Unprintable

namespace X86Gloss

namespace Quoted

/-- The apostrophe, the quote of choice. -/
def single : Char := '\u0027'

/-- The double quote, used around a text with apostrophes only. -/
def double : Char := '\u0022'

/-- The quote that stands around a text. -/
def mark (text : List Char) : Char :=
  if text.contains single && !text.contains double then double else single

/-- A code point in lower case hex, filled with zeros to `width` digits. -/
def code (width : Nat) (c : Char) : List Char :=
  let digits := Nat.toDigits 16 c.toNat
  List.replicate (width - digits.length) '0' ++ digits

/-- An escape by code point, as short as the code point allows. -/
def escapeCode (c : Char) : List Char :=
  if c.toNat < 0x100 then '\\' :: 'x' :: code 2 c
  else if c.toNat < 0x10000 then '\\' :: 'u' :: code 4 c
  else '\\' :: 'U' :: code 8 c

/-- One character between quotes. -/
def escape (quote c : Char) : List Char :=
  if c = quote || c = '\\' then ['\\', c]
  else if c = '\t' then ['\\', 't']
  else if c = '\n' then ['\\', 'n']
  else if c = '\r' then ['\\', 'r']
  else if isPrintable c then [c]
  else escapeCode c

end Quoted

/-- The text between quotes. -/
def quoted (text : String) : String :=
  let quote := Quoted.mark text.toList
  String.ofList (quote :: text.toList.flatMap (Quoted.escape quote) ++ [quote])

end X86Gloss
