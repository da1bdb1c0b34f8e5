/-
X86Gloss/Listing.lean

The listing of a record: its address, its assembler text and what it is told as. An
instruction that has no statement is told by its assembler text, as a comment.

A statement is written into a buffer that is doubled until it fits, up to a limit. A record
whose statement is longer than the limit allows cannot be told; its report names the limit,
unless the first buffer was larger than that.
-/
import X86Gloss.Gloss
import X86Gloss.Record
import X86Gloss.Diagnostic.Notice

namespace X86Gloss

/-- What stands before an assembler text that takes the place of a statement. -/
def commentMark : String := "// "

/-- The largest buffer that a statement is given, unless the caller sets another limit. -/
def standardLimit : Int := 4096

namespace Record

/-- The record's assembler text as a comment. -/
def fallback (record : Record) : String := commentMark ++ record.assembly

theorem fallback_eq (record : Record) : record.fallback = "// " ++ record.assembly := rfl

/-- The request to tell the record in the whole of a buffer. -/
def request (record : Record) : Request :=
  { instruction := some record.instruction
    operands := some record.operands
    address := record.address
    capacity := none }

/-- The report of a record whose statement does not fit. -/
def tooLong (record : Record) (capacity : Nat) : Report :=
  (Notice.capacityExhausted record.address (.number capacity)).report .capacity .error
    (Verdict.place record.instruction.mnemonic record.address)

/-- A text filled with spaces up to a width. -/
def padded (width : Nat) (text : String) : String :=
  text ++ String.ofList (List.replicate (width - text.length) ' ')

/-- A record and what it is told as, on one line of three columns with two spaces between them: the
address in hex with zeros up to ten characters, the assembler text with spaces up to thirty-two, and
the text. -/
def line (record : Record) (text : String) : String :=
  Numeral.paddedHex 10 record.address ++ "  " ++ padded 32 record.assembly ++ "  " ++ text

/-- A column that is too narrow for its contents is widened, and nothing is cut off. -/
theorem length_line (record : Record) (text : String) :
    (record.line text).length
      = max 10 (Numeral.lowerHex record.address).length + 2 + max 32 record.assembly.length + 2
        + text.length := by
  have hgap : "  ".length = 2 := rfl
  simp only [line, padded, String.length_append, String.length_ofList, List.length_replicate,
    Numeral.length_paddedHex]
  omega

example : line ⟨0x401000, 2, "mov eax, ebx", ⟨.mov, 2, none, 2⟩, []⟩ "(i32)ax = (i32)bx;"
    = "0x00401000  mov eax, ebx                      (i32)ax = (i32)bx;" := by rfl

end Record

/-! ### Telling one record -/

/-- What a record is told as, or why it cannot be told, and the rows that were logged on the way
to either. -/
structure Telling where
  text : Except TextFailure String
  rows : List Row

namespace RuleTable

/-- Tells a record in a buffer of a first capacity, doubled up to a limit while it is too small.
Every buffer that was too small leaves its row, whatever the last one comes to. -/
def tellFrom (table : RuleTable) (record : Record) (limit capacity : Nat) : Telling :=
  match table.gloss record.request (some (List.replicate capacity 0)) with
  | .error _ => ⟨.error .notAscii, []⟩
  | .ok reply =>
    match reply.result.outcome with
    | .success => ⟨.ok reply.result.text, reply.rows⟩
    | .invalidInput | .noStatement => ⟨.ok record.fallback, reply.rows⟩
    | .capacityExhausted =>
      if 0 < capacity ∧ capacity < limit then
        let telling := table.tellFrom record limit (min (capacity * 2) limit)
        { telling with rows := reply.rows ++ telling.rows }
      else
        ⟨.error (.reported (.ofReport (record.tooLong capacity))), reply.rows⟩
termination_by limit - capacity

/-- Tells a record; one whose mnemonic the table does not list is not even tried. -/
def tell (table : RuleTable) (record : Record) (limit capacity : Nat) : Telling :=
  if table.lists record.instruction.mnemonic then table.tellFrom record limit capacity
  else ⟨.ok record.fallback, []⟩

end RuleTable

/-! ### Listing records -/

/-- The lines of the records that could be told, and why the next one could not. -/
structure Listing where
  lines : List String
  rows : List Row
  failure : Option TextFailure
deriving DecidableEq

namespace Listing

/-- The listing as text, a line feed after each line. -/
def text (listing : Listing) : String := String.join (listing.lines.map (· ++ "\n"))

/-- Lists records in order, up to the first that cannot be told. -/
def ofRecords (table : RuleTable) (limit capacity : Nat) : List Record → Listing
  | [] => ⟨[], [], none⟩
  | record :: records =>
    match table.tell record limit capacity with
    | ⟨.error failure, rows⟩ => ⟨[], rows, some failure⟩
    | ⟨.ok text, rows⟩ =>
      let rest := ofRecords table limit capacity records
      ⟨record.line text :: rest.lines, rows ++ rest.rows, rest.failure⟩

end Listing

end X86Gloss
