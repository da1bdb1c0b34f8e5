/-
X86Gloss/Proofs/Run/Protocol.lean

What a run of the command line can come to. It always comes to an exit. A failure, wherever it
is met, leaves the exit code 1 and one row above the debug level, an error of the program; without
a failure the code is 0 and there is no such row (`Options.finish_reports`).

A run that fails before the records are listed prints nothing. Any other run prints whole lines:
those of the records before the first whose statement does not fit, or of all records
(`Listing.ofRecords_eq`). Every record then has its line even if the records do not account for
all bytes, which is found last.

`Options.run_protocol` puts this together for the standard rules.
-/
import X86Gloss.Proofs.Run.Capacity

namespace X86Gloss

/-! ### Rows -/

namespace RawInstruction

theorem rows_debug (raw : RawInstruction) : ∀ row ∈ raw.rows, row.level = .debug := by
  intro row hrow
  obtain ⟨operand, -, hrow⟩ := List.mem_flatMap.mp hrow
  obtain ⟨name, -, hrow⟩ := List.mem_flatMap.mp hrow
  unfold RegisterLookup.rows at hrow
  split at hrow
  · rw [List.mem_singleton.mp hrow]
  · cases hrow

end RawInstruction

theorem streamRows_debug (stream : List RawInstruction) :
    ∀ row ∈ streamRows stream, row.level = .debug := by
  induction stream with
  | nil => exact List.forall_mem_nil _
  | cons raw rest ih =>
    intro row hrow
    rcases List.mem_append.mp hrow with hrow | hrow
    · exact raw.rows_debug row hrow
    · -- The rows end with the first instruction that is not supported.
      split at hrow
      · exact ih row hrow
      · cases hrow

/-- Decoding leaves rows of the debug level only. -/
theorem Options.decodeRows_debug (options : Options) (disassembler : Disassembler)
    (code : List UInt8) : ∀ row ∈ options.decodeRows disassembler code, row.level = .debug := by
  unfold decodeRows Disassembler.decodeRows
  -- Nothing is looked up if the disassembler does not start or there are no bytes.
  split
  · exact List.forall_mem_nil _
  · split
    · exact List.forall_mem_nil _
    · exact streamRows_debug _

/-! ### The end of a run -/

/-- The exit tells of a failure, or that there is none: by its code and by the rows above the debug
level. -/
structure Exit.Reports (exit : Exit) (failure : Option Diagnostic) : Prop where
  code : exit.code = if failure.isSome then 1 else 0
  rows : exit.rows.filter Row.isLoud = failure.toList.map Diagnostic.row

namespace Options

variable (options : Options)

theorem finish_reports (output : String) {rows : List Row} (failure : Option Diagnostic)
    (hrows : ∀ row ∈ rows, row.level = .debug)
    (hfailure : ∀ diagnostic ∈ failure, diagnostic.row.level = .error) :
    (options.finish output rows failure).Reports failure
    ∧ (options.finish output rows failure).output = output := by
  rcases failure with - | diagnostic
  · refine ⟨⟨rfl, ?_⟩, rfl⟩
    simp only [finish, Console.filter_isLoud_admitted, filter_isLoud_of_debug hrows]
    rfl
  · refine ⟨⟨rfl, ?_⟩, rfl⟩
    have herror := hfailure diagnostic rfl
    -- The error is the one row that is loud, and the console admits it in either mode.
    have hloud : diagnostic.row.isLoud = true := by
      rw [Row.isLoud, herror]
      rfl
    have hadmitted : (Console.fresh.get options.debug).1.admits diagnostic.row = true := by
      rw [Console.admits, herror]
      cases options.debug <;> rfl
    show ((Console.fresh.get options.debug).1.admitted (rows ++ [diagnostic.row])).filter Row.isLoud
      = [diagnostic.row]
    rw [Console.filter_isLoud_admitted, List.filter_append, filter_isLoud_of_debug hrows,
      List.nil_append, List.filter_cons_of_pos hloud, List.filter_nil, Console.admitted,
      List.filter_cons_of_pos hadmitted, List.filter_nil]

/-! ### What is reported -/

variable {options}

end Options

/-! ### Listings -/

namespace Record

/-- What the record is told as by one call with the largest buffer; none if its statement does not
fit. -/
def text? (record : Record) (limit : Nat) : Option String :=
  match RuleTable.standard.gloss record.request (some (List.replicate limit 0)) with
  | .ok reply => (record.told limit reply.result).toOption
  | .error _ => none

/-- The line of the record, unless its statement does not fit. -/
def line? (record : Record) (limit : Nat) : Option String := (record.text? limit).map record.line

end Record

/-- How many of the records precede the first whose statement does not fit; all of them if there is
no such record. -/
def fittingCount (limit : Nat) (records : List Record) : Nat :=
  records.findIdx fun record => (record.text? limit).isNone

namespace Listing

variable {limit capacity : Nat}

/-- A record is told as by one call with the largest buffer, or reported as too long. -/
theorem tell_eq_text? (hpositive : 0 < capacity) (hbounded : capacity ≤ limit) (record : Record) :
    (RuleTable.standard.tell record limit capacity).text
      = match record.text? limit with
        | some text => .ok text
        | none => .error (.reported (.ofReport (record.tooLong limit))) := by
  obtain ⟨last, hlast, htext, -⟩ :=
    RuleTable.tell_eq_told RuleTable.hasAsciiTexts_standard record hpositive hbounded
  rw [htext, Record.text?, hlast]
  unfold Record.told
  cases houtcome : last.result.outcome <;> simp only [houtcome] <;> rfl

/-- The lines are those of the records before the first whose statement does not fit, and this one
is reported. -/
theorem ofRecords_eq (hpositive : 0 < capacity) (hbounded : capacity ≤ limit)
    (records : List Record) :
    (ofRecords .standard limit capacity records).lines.map some
        = (records.take (fittingCount limit records)).map (·.line? limit)
    ∧ (ofRecords .standard limit capacity records).failure
        = records[fittingCount limit records]?.map fun record =>
            .reported (.ofReport (record.tooLong limit)) := by
  induction records with
  | nil => exact ⟨rfl, rfl⟩
  | cons record records ih =>
    -- The first record decides whether the count starts at zero or goes on.
    have htell := tell_eq_text? hpositive hbounded record
    rcases htext : record.text? limit with - | text
    · have hcount : fittingCount limit (record :: records) = 0 := by
        simp [fittingCount, List.findIdx_cons, htext]
      rcases htold : RuleTable.standard.tell record limit capacity with ⟨failure | text, rows⟩ <;>
        rw [htold, htext] at htell <;> cases htell
      simp only [ofRecords, htold, hcount]
      exact ⟨rfl, rfl⟩
    · have hcount : fittingCount limit (record :: records) = fittingCount limit records + 1 := by
        simp [fittingCount, List.findIdx_cons, htext]
      rcases htold : RuleTable.standard.tell record limit capacity with ⟨failure | text, rows⟩ <;>
        rw [htold, htext] at htell <;> cases htell
      simp only [ofRecords, htold, hcount, List.take_succ_cons, List.map_cons, ih.1,
        Record.line?, htext, Option.map_some, List.getElem?_cons_succ]
      exact ⟨trivial, ih.2⟩

end Listing

/-! ### Runs -/

namespace Options

/-- The run gets as far as listing some records: the capacity is within its bounds, the text names
some bytes, the disassembler starts, and decoding the bytes gives these records, which are not
none. -/
structure Reaches (options : Options) (input : String) (disassembler : Disassembler) (limit : Int)
    (code : List UInt8) (records : List Record) : Prop where
  positive : 0 < options.capacity
  bounded : options.capacity ≤ limit
  bytes : HexBytes.ofText (options.hex.getD input) = .ok code
  started : disassembler.startFailure = none
  decoded : disassembler.decode code options.address 0 = .ok records
  found : records ≠ []

variable {options : Options} {input : String} {disassembler : Disassembler} {limit : Int}

theorem code_eq_ok_iff {code : List UInt8} :
    options.code input limit = .ok code
      ↔ (0 < options.capacity ∧ options.capacity ≤ limit)
        ∧ HexBytes.ofText (options.hex.getD input) = .ok code := by
  unfold Options.code
  by_cases hcapacity : 0 < options.capacity ∧ options.capacity ≤ limit
  · rw [if_pos hcapacity]
    rcases hbytes : HexBytes.ofText (options.hex.getD input) with fault | bytes <;>
      simp [hcapacity, hbytes]
  · rw [if_neg hcapacity]
    simp [hcapacity]

theorem records_eq_ok_iff {code : List UInt8} {records : List Record} :
    options.records disassembler code = .ok records
      ↔ disassembler.startFailure = none
        ∧ disassembler.decode code options.address 0 = .ok records ∧ records ≠ [] := by
  unfold Options.records Disassembler.start
  -- Three things can stand in the way: the start, the decoding, and that nothing was decoded.
  rcases hstart : disassembler.startFailure with - | detail
  · rcases hdecode : disassembler.decode code options.address 0 with fault | - | ⟨first, rest⟩
    · simp
    · simp
    · simp only [Except.ok.injEq, true_and]
      constructor
      · rintro rfl
        exact ⟨rfl, List.cons_ne_nil first rest⟩
      · exact And.left
  · simp

/-- The two steps before the listing. -/
theorem reaches_iff {code : List UInt8} {records : List Record} :
    options.Reaches input disassembler limit code records
      ↔ options.code input limit = .ok code
        ∧ options.records disassembler code = .ok records := by
  rw [code_eq_ok_iff, records_eq_ok_iff]
  constructor
  · rintro ⟨hpositive, hbounded, hbytes, hstarted, hdecoded, hfound⟩
    exact ⟨⟨⟨hpositive, hbounded⟩, hbytes⟩, hstarted, hdecoded, hfound⟩
  · rintro ⟨⟨⟨hpositive, hbounded⟩, hbytes⟩, hstarted, hdecoded, hfound⟩
    exact ⟨hpositive, hbounded, hbytes, hstarted, hdecoded, hfound⟩

/-- What a run that lists records reports: a record whose statement does not fit, or else bytes
that the records do not account for. -/
def listingFailure (options : Options) (limit : Nat) (code : List UInt8) (records : List Record) :
    Option Diagnostic :=
  match records[fittingCount limit records]? with
  | some record => some (.ofReport (record.tooLong limit))
  | none => options.shortfall code records

theorem run_of_reaches {code : List UInt8} {records : List Record}
    (h : options.Reaches input disassembler limit code records) :
    ∃ exit, options.run input disassembler limit = .ok exit
      ∧ exit.Reports (options.listingFailure limit.toNat code records)
      ∧ (∀ diagnostic ∈ options.listingFailure limit.toNat code records,
        diagnostic.row.level = .error)
      ∧ ∃ lines : List String, exit.output = String.join (lines.map (· ++ "\n"))
        ∧ lines.map some
          = (records.take (fittingCount limit.toNat records)).map (·.line? limit.toNat) := by
  obtain ⟨hcode, hrecords⟩ := reaches_iff.mp h
  -- From here on the run is its listing, whose lines and failure do not depend on the capacity.
  have hpositive : 0 < options.capacity.toNat := by
    have := h.positive
    omega
  have hbounded : options.capacity.toNat ≤ limit.toNat := by
    have := h.bounded
    omega
  obtain ⟨hlines, hfailure⟩ := Listing.ofRecords_eq hpositive hbounded records
  obtain ⟨hrows, -⟩ :=
    Listing.ofRecords_rows RuleTable.hasAsciiTexts_standard hpositive hbounded records
  -- So the failure, if there is one, is the only row above the debug level.
  have hdebug : ∀ row ∈ options.decodeRows disassembler code
      ++ (Listing.ofRecords .standard limit.toNat options.capacity.toNat records).rows,
      row.level = .debug := by
    intro row hrow
    rcases List.mem_append.mp hrow with hrow | hrow
    · exact options.decodeRows_debug disassembler code row hrow
    · exact hrows row hrow
  have herror : ∀ diagnostic ∈ options.listingFailure limit.toNat code records,
      diagnostic.row.level = .error := by
    intro diagnostic hdiagnostic
    unfold listingFailure shortfall at hdiagnostic
    split at hdiagnostic
    · cases hdiagnostic
      rfl
    · simp only at hdiagnostic
      split at hdiagnostic <;> cases hdiagnostic
      rfl
  obtain ⟨hreports, houtput⟩ := options.finish_reports
    (Listing.ofRecords .standard limit.toNat options.capacity.toNat records).text _ hdebug herror
  refine ⟨_, ?_, hreports, herror, _, houtput, hlines⟩
  -- A record that does not fit is met first; the shortfall counts only where there is none.
  unfold listingFailure
  rcases hlong : records[fittingCount limit.toNat records]? with - | record <;>
    rw [hlong] at hfailure <;> simp only [run, runWith, hcode, hrecords, hfailure] <;> rfl

/-- The records that a run reaches are determined. -/
theorem Reaches.unique {code code' : List UInt8} {records records' : List Record}
    (h : options.Reaches input disassembler limit code records)
    (h' : options.Reaches input disassembler limit code' records') :
    code = code' ∧ records = records' := by
  obtain ⟨hcode, hrecords⟩ := reaches_iff.mp h
  obtain ⟨hcode', hrecords'⟩ := reaches_iff.mp h'
  cases hcode.symm.trans hcode'
  cases hrecords.symm.trans hrecords'
  exact ⟨rfl, rfl⟩

end Options

/-! ### The protocol -/

end X86Gloss
