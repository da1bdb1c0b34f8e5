/-
X86Gloss/Proofs/Run/Capacity.lean

The capacity of a run cannot be observed. A record is told as what one call at the limit
decides, so a listing has the same lines and ends in the same failure whatever valid capacity
it starts from; only the rows about buffers that were too small differ, and they are of the
debug level. The exits of two such runs agree in everything but these rows
(`tell_run_capacity`), and so do runs of settings (`Settings.run_capacity`).
-/
import X86Gloss.Proofs.Listing.Need
import X86Gloss.Run.Settings

namespace X86Gloss

/-! ### Rows and exits -/

/-- The row is louder than those that only debugging shows. -/
def Row.isLoud (row : Row) : Bool := Level.debug.rank < row.level.rank

/-- Two exits differ at most in their debug rows. -/
structure Exit.Agrees (first second : Exit) : Prop where
  code : first.code = second.code
  output : first.output = second.output
  trace : first.trace = second.trace
  rows : first.rows.filter Row.isLoud = second.rows.filter Row.isLoud

namespace Exit.Agrees

variable {first second third : Exit}

theorem symm (h : first.Agrees second) : second.Agrees first :=
  ⟨h.code.symm, h.output.symm, h.trace.symm, h.rows.symm⟩

theorem trans (h : first.Agrees second) (h' : second.Agrees third) : first.Agrees third :=
  ⟨h.code.trans h'.code, h.output.trans h'.output, h.trace.trans h'.trace, h.rows.trans h'.rows⟩

end Exit.Agrees

theorem filter_isLoud_of_debug {rows : List Row} (h : ∀ row ∈ rows, row.level = .debug) :
    rows.filter Row.isLoud = [] := by
  rw [List.filter_eq_nil_iff]
  intro row hrow
  simp only [Row.isLoud, h row hrow, Nat.lt_irrefl, decide_false, Bool.false_eq_true,
    not_false_eq_true]

/-- The console does not look at other rows to let one pass. -/
theorem Console.filter_isLoud_admitted (console : Console) (rows : List Row) :
    (console.admitted rows).filter Row.isLoud = console.admitted (rows.filter Row.isLoud) := by
  simp only [admitted, List.filter_filter, Bool.and_comm]

variable {table : RuleTable} {options : Options} {limit capacity : Nat}

theorem Options.finish_agrees (output : String) {rows rows' : List Row}
    (failure : Option Diagnostic) (h : rows.filter Row.isLoud = rows'.filter Row.isLoud) :
    (options.finish output rows failure).Agrees (options.finish output rows' failure) := by
  rcases failure with - | diagnostic
  · refine ⟨rfl, rfl, rfl, ?_⟩
    simp only [finish, Console.filter_isLoud_admitted, h]
  · refine ⟨rfl, rfl, rfl, ?_⟩
    simp only [finish, Console.filter_isLoud_admitted, List.filter_append, h]

/-! ### Listings -/

namespace Listing

/-- A listing from a valid capacity leaves debug rows and is not refused. -/
theorem ofRecords_rows (hascii : table.HasAsciiTexts) (hpositive : 0 < capacity)
    (hbounded : capacity ≤ limit) (records : List Record) :
    (∀ row ∈ (ofRecords table limit capacity records).rows, row.level = .debug)
    ∧ (ofRecords table limit capacity records).failure ≠ some .notAscii := by
  induction records with
  | nil => exact ⟨nofun, nofun⟩
  | cons record records ih =>
    -- What a record is told as is never refused as not ASCII; the rows of its calls are debug rows.
    obtain ⟨last, -, htext, hrows⟩ := RuleTable.tell_eq_told hascii record hpositive hbounded
    rcases htell : table.tell record limit capacity with ⟨failure | text, rows⟩
    · rw [htell] at htext hrows
      simp only [ofRecords, htell]
      refine ⟨hrows, ?_⟩
      rintro ⟨⟩
      unfold Record.told at htext
      split at htext <;> cases htext
    · rw [htell] at hrows
      simp only [ofRecords, htell]
      refine ⟨?_, ih.2⟩
      intro row hrow
      rcases List.mem_append.mp hrow with hrow | hrow
      · exact hrows row hrow
      · exact ih.1 row hrow

/-- A listing from a valid capacity has the lines and the failure of one from the limit. -/
theorem ofRecords_eq_limit (hascii : table.HasAsciiTexts) (hpositive : 0 < capacity)
    (hbounded : capacity ≤ limit) (records : List Record) :
    (ofRecords table limit capacity records).lines = (ofRecords table limit limit records).lines
    ∧ (ofRecords table limit capacity records).failure
      = (ofRecords table limit limit records).failure := by
  induction records with
  | nil => exact ⟨rfl, rfl⟩
  | cons record records ih =>
    -- Both tellings of the first record are what the one call at the limit decides.
    obtain ⟨last, hlast, htext, -⟩ := RuleTable.tell_eq_told hascii record hpositive hbounded
    obtain ⟨last', hlast', htext', -⟩ := RuleTable.tell_eq_told hascii record
      (Nat.lt_of_lt_of_le hpositive hbounded) (Nat.le_refl limit)
    cases hlast.symm.trans hlast'
    have hsame := htext.trans htext'.symm
    rcases htell : table.tell record limit capacity with ⟨failure | text, rows⟩ <;>
      rcases htell' : table.tell record limit limit with ⟨failure' | text', rows'⟩ <;>
      rw [htell, htell'] at hsame <;> cases hsame <;> simp only [ofRecords, htell, htell']
    · exact ⟨trivial, trivial⟩
    · exact ⟨by rw [ih.1], ih.2⟩

end Listing

/-! ### Runs -/

namespace Options

/-- The options with another capacity. -/
def withCapacity (options : Options) (capacity : Nat) : Options :=
  { options with capacity := capacity }

@[simp] theorem withCapacity_capacity : (options.withCapacity capacity).capacity = capacity := rfl

@[simp] theorem withCapacity_records (disassembler : Disassembler) (bytes : List UInt8) :
    (options.withCapacity capacity).records disassembler bytes
      = options.records disassembler bytes := rfl

@[simp] theorem withCapacity_decodeRows (disassembler : Disassembler) (bytes : List UInt8) :
    (options.withCapacity capacity).decodeRows disassembler bytes
      = options.decodeRows disassembler bytes := rfl

@[simp] theorem withCapacity_shortfall (bytes : List UInt8) (records : List Record) :
    (options.withCapacity capacity).shortfall bytes records
      = options.shortfall bytes records := rfl

@[simp] theorem withCapacity_finish (output : String) (rows : List Row)
    (failure : Option Diagnostic) :
    (options.withCapacity capacity).finish output rows failure
      = options.finish output rows failure := rfl

/-- The bytes to decode are the same for all valid capacities. -/
theorem code_withCapacity (options : Options) (input : String) (hpositive : 0 < capacity)
    (hbounded : capacity ≤ limit) :
    (options.withCapacity capacity).code input limit
      = (options.withCapacity limit).code input limit := by
  have hvalid : (0 : Int) < capacity ∧ (capacity : Int) ≤ limit := by omega
  have hvalid' : (0 : Int) < limit ∧ (limit : Int) ≤ limit := by omega
  unfold code
  rw [withCapacity_capacity, withCapacity_capacity, if_pos hvalid, if_pos hvalid']
  rfl

/-- A run with a valid capacity comes to an exit that agrees with one with the limit. -/
theorem runWith_agrees_limit (hascii : table.HasAsciiTexts) (options : Options) (input : String)
    (disassembler : Disassembler) (hpositive : 0 < capacity) (hbounded : capacity ≤ limit) :
    ∃ exit exit', runWith table (options.withCapacity capacity) input disassembler limit = .ok exit
      ∧ runWith table (options.withCapacity limit) input disassembler limit = .ok exit'
      ∧ exit.Agrees exit' := by
  have hcode := options.code_withCapacity input hpositive hbounded
  -- A run can fail before it comes to the listing, at the bytes or at the records; the capacity has
  -- no part in either.
  rcases hbytes : (options.withCapacity limit).code input limit with diagnostic | bytes
  · simp only [runWith, hcode, hbytes, withCapacity_finish]
    exact ⟨_, _, rfl, rfl, finish_agrees _ _ rfl⟩
  rcases hfound : options.records disassembler bytes with diagnostic | records
  · simp only [runWith, hcode, hbytes, withCapacity_records, hfound, withCapacity_finish,
      withCapacity_decodeRows]
    exact ⟨_, _, rfl, rfl, finish_agrees _ _ rfl⟩
  obtain ⟨hlines, hfailure⟩ := Listing.ofRecords_eq_limit hascii hpositive hbounded records
  obtain ⟨hrows, -⟩ := Listing.ofRecords_rows hascii hpositive hbounded records
  obtain ⟨hrows', hanswered⟩ := Listing.ofRecords_rows hascii
    (Nat.lt_of_lt_of_le hpositive hbounded) (Nat.le_refl limit) records
  -- The rows of the decoder come first in both runs, and the listings add none that is loud.
  have hloud : (options.decodeRows disassembler bytes
        ++ (Listing.ofRecords table limit capacity records).rows).filter Row.isLoud
      = (options.decodeRows disassembler bytes
        ++ (Listing.ofRecords table limit limit records).rows).filter Row.isLoud := by
    simp only [List.filter_append, filter_isLoud_of_debug hrows, filter_isLoud_of_debug hrows']
  simp only [runWith, hcode, hbytes, withCapacity_records, hfound, withCapacity_finish,
    withCapacity_decodeRows, withCapacity_capacity, withCapacity_shortfall, Int.toNat_natCast,
    Listing.text, hlines, hfailure]
  rcases hlast : (Listing.ofRecords table limit limit records).failure with
    - | ⟨- | diagnostic⟩
  · exact ⟨_, _, rfl, rfl, finish_agrees _ _ hloud⟩
  · exact absurd hlast hanswered
  · exact ⟨_, _, rfl, rfl, finish_agrees _ _ hloud⟩

/-- What the address of the first byte is needed for does not depend on a valid capacity. -/
theorem addressUse_withCapacity (options : Options) (disassembler : Disassembler)
    (bytes : List UInt8) (hpositive : 0 < capacity) (hbounded : capacity ≤ limit) :
    (options.withCapacity capacity).addressUse disassembler limit bytes
      = (options.withCapacity limit).addressUse disassembler limit bytes := by
  have hfailure := fun records => (Listing.ofRecords_eq_limit RuleTable.hasAsciiTexts_standard
    hpositive hbounded records).2
  simp only [addressUse, withCapacity_capacity, Int.toNat_natCast, hfailure]
  rfl

end Options

namespace Settings

/-- The settings with a capacity. -/
def withCapacity (settings : Settings) (capacity : Nat) : Settings :=
  { settings with capacity := some (capacity : Int) }

@[simp] theorem options_withCapacity (settings : Settings) (capacity : Nat) :
    (settings.withCapacity capacity).options = settings.options.withCapacity capacity := rfl

theorem missing_withCapacity (settings : Settings) (input : String) (disassembler : Disassembler)
    (hpositive : 0 < capacity) (hbounded : capacity ≤ limit) :
    (settings.withCapacity capacity).missing input disassembler limit
      = (settings.withCapacity limit).missing input disassembler limit := by
  have hcode := settings.options.code_withCapacity input hpositive hbounded
  have huse := fun bytes =>
    settings.options.addressUse_withCapacity disassembler bytes hpositive hbounded
  simp only [missing, options_withCapacity, hcode, huse]
  rfl

/-- Runs of settings with a valid capacity end like the one with the limit. -/
theorem run_agrees_limit (settings : Settings) (input : String) (disassembler : Disassembler)
    (hpositive : 0 < capacity) (hbounded : capacity ≤ limit) :
    (∃ breakdown, (settings.withCapacity capacity).run input disassembler limit = .error breakdown
      ∧ (settings.withCapacity limit).run input disassembler limit = .error breakdown)
    ∨ ∃ exit exit', (settings.withCapacity capacity).run input disassembler limit = .ok exit
      ∧ (settings.withCapacity limit).run input disassembler limit = .ok exit'
      ∧ exit.Agrees exit' := by
  -- Whether the settings break off is decided by steps that do not depend on the capacity.
  have hmissing := settings.missing_withCapacity input disassembler hpositive hbounded
  rcases hlimit : (settings.withCapacity limit).missing input disassembler limit with
    - | breakdown
  · obtain ⟨exit, exit', hrun, hrun', hagrees⟩ := Options.runWith_agrees_limit
      RuleTable.hasAsciiTexts_standard settings.options input disassembler hpositive hbounded
    refine .inr ⟨exit, exit', ?_, ?_, hagrees⟩
    · simp only [run, hmissing, hlimit, options_withCapacity, Options.run, hrun]
    · simp only [run, hlimit, options_withCapacity, Options.run, hrun']
  · refine .inl ⟨breakdown, ?_, ?_⟩
    · simp only [run, hmissing, hlimit]
    · simp only [run, hlimit]

end Settings

/-! ### Any two capacities -/

/-- **The first capacity cannot be observed.**  From any valid capacity a record is told as what
one call at the limit decides: its text after a success, the assembler text as a comment where the
input is invalid or there is no statement, and otherwise a failure that names the limit. Two runs
with valid capacities come to exits that differ at most in their debug rows, and so do two runs of
settings, unless both break off for the same reason. -/
theorem tell_run_capacity (hascii : table.HasAsciiTexts) {capacity' : Nat}
    (hpositive : 0 < capacity) (hbounded : capacity ≤ limit)
    (hpositive' : 0 < capacity') (hbounded' : capacity' ≤ limit) :
    (∀ record : Record, ∃ last,
      table.gloss ⟨some record.instruction, some record.operands, record.address, none⟩
        (some (List.replicate limit 0)) = .ok last
      ∧ (last.result.outcome = .success →
        (table.tell record limit capacity).text = .ok last.result.text)
      ∧ (last.result.outcome = .invalidInput ∨ last.result.outcome = .noStatement →
        (table.tell record limit capacity).text = .ok ("// " ++ record.assembly))
      ∧ (last.result.outcome = .capacityExhausted →
        (table.tell record limit capacity).text = .error (.reported (.ofReport
          { problem := .general .capacity ("Translation at " ++ Numeral.lowerHex record.address
              ++ " does not fit into " ++ Numeral.decimal limit ++ " bytes")
            severity := .error
            context :=
              { mnemonic := some record.instruction.mnemonic.text, address := some record.address }
            suggestion := some "Raise --capacity." }))))
    ∧ (∀ (options : Options) (input : String) (disassembler : Disassembler), ∃ exit exit',
      Options.runWith table (options.withCapacity capacity) input disassembler limit = .ok exit
      ∧ Options.runWith table (options.withCapacity capacity') input disassembler limit = .ok exit'
      ∧ exit.Agrees exit')
    ∧ ∀ (settings : Settings) (input : String) (disassembler : Disassembler),
      (∃ breakdown,
        (settings.withCapacity capacity).run input disassembler limit = .error breakdown
        ∧ (settings.withCapacity capacity').run input disassembler limit = .error breakdown)
      ∨ ∃ exit exit', (settings.withCapacity capacity).run input disassembler limit = .ok exit
        ∧ (settings.withCapacity capacity').run input disassembler limit = .ok exit'
        ∧ exit.Agrees exit' := by
  refine ⟨?_, ?_, ?_⟩
  · intro record
    obtain ⟨last, hlast, htext, -⟩ := RuleTable.tell_eq_told hascii record hpositive hbounded
    refine ⟨last, hlast, ?_, ?_, ?_⟩
    · intro hsuccess
      rw [htext, Record.told, hsuccess]
    · rintro (hinvalid | hmissing)
      · rw [htext, Record.told, hinvalid]
        rfl
      · rw [htext, Record.told, hmissing]
        rfl
    · intro hexhausted
      rw [htext, Record.told, hexhausted]
      rfl
  · -- Either run agrees with the one from the limit.
    intro options input disassembler
    obtain ⟨exit, last, hrun, hlast, hagrees⟩ :=
      options.runWith_agrees_limit hascii input disassembler hpositive hbounded
    obtain ⟨exit', last', hrun', hlast', hagrees'⟩ :=
      options.runWith_agrees_limit hascii input disassembler hpositive' hbounded'
    cases hlast.symm.trans hlast'
    exact ⟨exit, exit', hrun, hrun', hagrees.trans hagrees'.symm⟩
  · -- Here the run from the limit may break off, and then both do; the mixed cases contradict.
    intro settings input disassembler
    rcases settings.run_agrees_limit input disassembler hpositive hbounded with
      ⟨breakdown, hrun, hlast⟩ | ⟨exit, last, hrun, hlast, hagrees⟩ <;>
      rcases settings.run_agrees_limit input disassembler hpositive' hbounded' with
        ⟨breakdown', hrun', hlast'⟩ | ⟨exit', last', hrun', hlast', hagrees'⟩ <;>
      cases hlast.symm.trans hlast'
    · exact .inl ⟨breakdown, hrun, hrun'⟩
    · exact .inr ⟨exit, exit', hrun, hrun', hagrees.trans hagrees'.symm⟩

/-- From four bytes a move of registers is told as in sixty-four, and one without its source by its
assembler text. With a limit of eight bytes the move of registers is not told, and the failure names
the eight. -/
theorem tell_moves_from_four :
    (RuleTable.standard.tell ⟨0, 2, "mov eax, ebx", ⟨.mov, 2, none, 2⟩,
        [.ofRegister 37, .ofRegister 40]⟩ 64 4).text = .ok "(i32)ax = (i32)bx;"
    ∧ (RuleTable.standard.tell ⟨0, 2, "mov eax", ⟨.mov, 1, none, 2⟩, [.ofRegister 37]⟩ 64 4).text
      = .ok "// mov eax"
    ∧ (RuleTable.standard.tell ⟨0, 2, "mov eax, ebx", ⟨.mov, 2, none, 2⟩,
        [.ofRegister 37, .ofRegister 40]⟩ 8 4).text
      = .error (.reported (.ofReport
        { problem := .general .capacity "Translation at 0x0 does not fit into 8 bytes"
          severity := .error
          context := { mnemonic := some "mov", address := some 0 }
          suggestion := some "Raise --capacity." })) := by
  have hfour : 0 < 4 ∧ 4 ≤ 64 ∧ 4 ≤ 8 := by decide
  have hwide := (tell_run_capacity RuleTable.hasAsciiTexts_standard hfour.1 hfour.2.1
    hfour.1 hfour.2.1).1
  have hnarrow := (tell_run_capacity RuleTable.hasAsciiTexts_standard hfour.1 hfour.2.2
    hfour.1 hfour.2.2).1
  refine ⟨?_, ?_, ?_⟩
  · obtain ⟨last, hlast, hsuccess, -, -⟩ := hwide ⟨0, 2, "mov eax, ebx", ⟨.mov, 2, none, 2⟩,
      [.ofRegister 37, .ofRegister 40]⟩
    cases hlast
    exact hsuccess rfl
  · obtain ⟨last, hlast, -, hfallback, -⟩ :=
      hwide ⟨0, 2, "mov eax", ⟨.mov, 1, none, 2⟩, [.ofRegister 37]⟩
    cases hlast
    exact hfallback (.inl rfl)
  · obtain ⟨last, hlast, -, -, hexhausted⟩ := hnarrow ⟨0, 2, "mov eax, ebx", ⟨.mov, 2, none, 2⟩,
      [.ofRegister 37, .ofRegister 40]⟩
    cases hlast
    exact hexhausted rfl

end X86Gloss
