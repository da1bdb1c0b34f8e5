/-
X86Gloss/Proofs/Text/HexBytes.lean

Texts that name bytes. Without its markers and separators such a text is a row of hex digits, two
for each byte; `HexBytes.Names` relates rows and bytes, and `ofText_eq_ok_iff` says that reading
accepts nothing else.

The markers are deleted in two passes over the whole text, before the separators. So a marker could
arise where two texts meet, or where a marker of the other kind was cut out. For this the text
behind would have to begin with an `x` after the first pass, and then the `x` would stay in that
text when it stands alone (`clean_append`). Hence texts that are accepted can be joined, and a text
that is put together from single bytes names these bytes, however each of them is spelled
(`ofText_append_and_spelled`).
-/
import X86Gloss.Text.HexBytes

namespace X86Gloss.HexBytes

/-! ### Rows of digits -/

/-- The row consists of two hex digits for each of the bytes. -/
inductive Names : List Char → List UInt8 → Prop
  | nothing : Names [] []
  | byte {high low : Char} {h l : Nat} {row : List Char} {bytes : List UInt8} :
      digit? high = some h → digit? low = some l → Names row bytes →
      Names (high :: low :: row) (UInt8.ofNat (16 * h + l) :: bytes)

namespace Names

variable {row row' : List Char} {bytes bytes' : List UInt8}

theorem isSome_digit? (h : Names row bytes) : ∀ c ∈ row, (digit? c).isSome = true := by
  induction h with
  | nothing => exact fun c hc => absurd hc List.not_mem_nil
  | byte hhigh hlow _ ih =>
    refine List.forall_mem_cons.mpr ⟨?_, List.forall_mem_cons.mpr ⟨?_, ih⟩⟩
    · rw [hhigh]
      rfl
    · rw [hlow]
      rfl

theorem length_eq (h : Names row bytes) : row.length = 2 * bytes.length := by
  induction h with
  | nothing => rfl
  | byte _ _ _ ih =>
    simp only [List.length_cons]
    omega

theorem append (h : Names row bytes) (h' : Names row' bytes') :
    Names (row ++ row') (bytes ++ bytes') := by
  induction h with
  | nothing => exact h'
  | byte hhigh hlow _ ih => exact .byte hhigh hlow ih

end Names

/-! ### Reading a row -/

theorem toNat_lt_of_digit? {c : Char} (h : (digit? c).isSome = true) : c.toNat < 0x80 := by
  have hle : ∀ last : Char, c ≤ last → c.toNat ≤ last.toNat := fun last h => h
  simp only [digit?, Bool.and_eq_true, decide_eq_true_eq] at h
  split at h
  · rename_i hrange
    exact Nat.lt_of_le_of_lt (hle _ hrange.2) (by decide)
  · split at h
    · rename_i hrange
      exact Nat.lt_of_le_of_lt (hle _ hrange.2) (by decide)
    · split at h
      · rename_i hrange
        exact Nat.lt_of_le_of_lt (hle _ hrange.2) (by decide)
      · cases h

theorem pairs_eq_ok_iff {position : Nat} {row : List Char} {bytes : List UInt8} :
    pairs position row = .ok bytes ↔ Names row bytes := by
  -- Reading fails for an odd digit or for either character of a pair; in each of these cases no
  -- relation holds, for its only constructor asks for two digits.
  fun_induction pairs position row generalizing bytes with
  | case1 =>
    constructor
    · intro h
      cases h
      exact .nothing
    · rintro ⟨⟩
      rfl
  | case2 =>
    constructor
    · intro h
      cases h
    · rintro ⟨⟩
  | case3 position high low rest hhigh =>
    constructor
    · intro h
      cases h
    · rintro (_ | ⟨hsome, -, -⟩)
      cases hhigh.symm.trans hsome
  | case4 position high low rest value hlow hhigh =>
    constructor
    · intro h
      cases h
    · rintro (_ | ⟨-, hsome, -⟩)
      cases hlow.symm.trans hsome
  | case5 position high low rest h l hlow hhigh ih =>
    constructor
    · intro hpairs
      rcases hrest : pairs (position + 2) rest with fault | bytes'
      · rw [hrest] at hpairs
        cases hpairs
      · rw [hrest] at hpairs
        cases hpairs
        exact .byte hhigh hlow (ih.mp hrest)
    · rintro (_ | ⟨hsome, hsome', hnames⟩)
      cases hhigh.symm.trans hsome
      cases hlow.symm.trans hsome'
      rw [ih.mpr hnames]
      rfl

theorem ofCleaned_eq_ok_iff {row : List Char} {bytes : List UInt8} :
    ofCleaned row = .ok bytes ↔ Names row bytes := by
  -- A character beyond ASCII is found before any pair is read.
  rcases hfind : row.findIdx? fun c => 0x80 ≤ c.toNat with - | position
  · simp only [ofCleaned, hfind]
    exact pairs_eq_ok_iff
  · simp only [ofCleaned, hfind]
    constructor
    · intro h
      cases h
    · intro h
      -- Digits are ASCII, so a row that names bytes has none to find.
      have hascii : row.findIdx? (fun c => 0x80 ≤ c.toNat) = none := by
        rw [List.findIdx?_eq_none_iff]
        intro c hc
        have hlt := toNat_lt_of_digit? (h.isSome_digit? c hc)
        exact decide_eq_false (by omega)
      rw [hfind] at hascii
      cases hascii

/-- Reading accepts the texts whose digits name bytes. -/
theorem ofText_eq_ok_iff {text : String} {bytes : List UInt8} :
    ofText text = .ok bytes ↔ Names (clean text.toList) bytes :=
  ofCleaned_eq_ok_iff

/-! ### Deleted pairs -/

section Pairs

variable {first second : Char} {text rest : List Char}

theorem deletePair_cons_of_ne {c : Char} (h : c ≠ first) (rest : List Char) :
    deletePair first second (c :: rest) = c :: deletePair first second rest := by
  rcases rest with - | ⟨d, rest⟩
  · rfl
  · have hkept : ¬ (decide (c = first) && decide (d = second)) = true := by simp [h]
    rw [deletePair, if_neg hkept]

/-- Without its second member no pair is there to be deleted. -/
theorem deletePair_eq_self (h : second ∉ text) : deletePair first second text = text := by
  fun_induction deletePair first second text with
  | case1 a b rest hpair =>
    simp only [Bool.and_eq_true, decide_eq_true_eq] at hpair
    exact absurd (hpair.2 ▸ List.mem_cons_of_mem a List.mem_cons_self) h
  | case2 a b rest _ ih => rw [ih fun hmem => h (List.mem_cons_of_mem a hmem)]
  | case3 => rfl

/-- No pair stands across the place where two texts meet unless the second text begins with the
second member. -/
theorem deletePair_append (h : rest.head? ≠ some second) :
    deletePair first second (text ++ rest)
      = deletePair first second text ++ deletePair first second rest := by
  -- Induction on the passage through the first text; only its last character can form a pair with
  -- what follows.
  fun_induction deletePair first second text with
  | case1 a b text hpair ih =>
    rw [List.cons_append, List.cons_append, deletePair, if_pos hpair, ih]
  | case2 a b text hpair ih =>
    rw [List.cons_append, List.cons_append, deletePair, if_neg hpair, ← List.cons_append, ih,
      List.cons_append]
  | case3 text hshort =>
    rcases text with - | ⟨a, - | ⟨b, text⟩⟩
    · rfl
    · rcases rest with - | ⟨d, rest⟩
      · rfl
      · have hkept : ¬ (decide (a = first) && decide (d = second)) = true := by
          simp only [Bool.and_eq_true, decide_eq_true_eq]
          rintro ⟨-, rfl⟩
          exact h rfl
        rw [List.singleton_append, deletePair, if_neg hkept]
        rfl
    · exact absurd rfl (hshort a b text)

end Pairs

/-! ### Cleaned texts -/

/-- Two texts are cleaned apart if no `x` is at the beginning of the second after the first pass. -/
theorem clean_append_of_head {first second : List Char}
    (h : (deletePair '\\' 'x' second).head? ≠ some 'x') :
    clean (first ++ second) = clean first ++ clean second := by
  -- Before the first pass there was no `x` either, for that pass does not delete one that stands
  -- first.
  have hbefore : second.head? ≠ some 'x' := by
    intro hx
    obtain ⟨rest, rfl⟩ := List.head?_eq_some_iff.mp hx
    exact h (congrArg List.head? (deletePair_cons_of_ne (by decide) rest))
  rw [clean, deletePair_append hbefore, deletePair_append h, List.filter_append]
  rfl

/-- An `x` at the beginning after the first pass is there to the end. -/
theorem mem_clean_of_head {text : List Char} (h : (deletePair '\\' 'x' text).head? = some 'x') :
    'x' ∈ clean text := by
  obtain ⟨rest, hrest⟩ := List.head?_eq_some_iff.mp h
  rw [clean, hrest, deletePair_cons_of_ne (by decide)]
  exact List.mem_filter.mpr ⟨List.mem_cons_self, by decide⟩

/-- Two texts are cleaned apart if the second is left without an `x`. -/
theorem clean_append {first second : List Char} (h : 'x' ∉ clean second) :
    clean (first ++ second) = clean first ++ clean second :=
  clean_append_of_head fun hx => h (mem_clean_of_head hx)

theorem Names.not_mem_x {row : List Char} {bytes : List UInt8} (h : Names row bytes) :
    'x' ∉ row := by
  intro hx
  exact absurd (h.isSome_digit? 'x' hx) (by decide)

theorem names_clean_append {first second : List Char} {bytes bytes' : List UInt8}
    (h : Names (clean first) bytes) (h' : Names (clean second) bytes') :
    Names (clean (first ++ second)) (bytes ++ bytes') := by
  rw [clean_append h'.not_mem_x]
  exact h.append h'

/-- A text without an `x` holds no marker. -/
theorem clean_of_not_mem {text : List Char} (h : 'x' ∉ text) :
    clean text = text.filter fun c => !isSeparator c := by
  rw [clean, deletePair_eq_self h, deletePair_eq_self h]

theorem ne_x_of_isSeparator {c : Char} (h : isSeparator c = true) : c ≠ 'x' := by
  rintro rfl
  exact absurd h (by decide)

theorem clean_separators {text : List Char} (h : ∀ c ∈ text, isSeparator c = true) :
    clean text = [] := by
  rw [clean_of_not_mem fun hx => ne_x_of_isSeparator (h _ hx) rfl]
  refine List.filter_eq_nil_iff.mpr fun c hc => ?_
  rw [h c hc]
  decide

/-! ### Spellings -/

/-- A run of separators, perhaps none. -/
def Gap := { text : List Char // text.all isSeparator = true }

/-- What may mark the digits of a byte. -/
inductive Marker where
  | bare
  | zero
  | backslash
deriving DecidableEq

/-- The marker as it stands before the digits. -/
def Marker.text : Marker → List Char
  | .bare => []
  | .zero => ['0', 'x']
  | .backslash => ['\\', 'x']

/-- A digit in upper or lower case. -/
def inCase (upper : Bool) (digit : Char) : Char := if upper then digit.toUpper else digit

/-- A byte, and one way to write it. -/
structure SpelledByte where
  byte : UInt8
  gap : Gap
  marker : Marker
  isHighUpper : Bool
  isLowUpper : Bool

namespace SpelledByte

/-- The two digits of the byte, each in its case. -/
def digits (spelled : SpelledByte) : List Char :=
  List.zipWith inCase [spelled.isHighUpper, spelled.isLowUpper] (byteDigits spelled.byte)

/-- The byte as it is written: separators, the marker, and the digits. -/
def text (spelled : SpelledByte) : List Char :=
  spelled.gap.1 ++ (spelled.marker.text ++ spelled.digits)

end SpelledByte

/-- Spelled bytes in a row, with separators behind the last. -/
def spelling (spelled : List SpelledByte) (gap : Gap) : String :=
  String.ofList (spelled.flatMap SpelledByte.text ++ gap.1)

theorem digit?_inCase (upper : Bool) {n : Nat} (h : n < 16) :
    digit? (inCase upper n.digitChar) = some n
    ∧ isSeparator (inCase upper n.digitChar) = false := by
  have hall : ∀ upper : Bool, ∀ n < 16, digit? (inCase upper (Nat.digitChar n)) = some n
      ∧ isSeparator (inCase upper (Nat.digitChar n)) = false := by decide
  exact hall upper n h

/-- A marker before two digits leaves no trace. -/
theorem clean_marked (marker : Marker) {high low : Char} (hx : 'x' ∉ [high, low])
    (hgaps : ∀ c ∈ [high, low], isSeparator c = false) :
    clean (marker.text ++ [high, low]) = [high, low] := by
  have hkept : [high, low].filter (fun c => !isSeparator c) = [high, low] := by
    refine List.filter_eq_self.mpr fun c hc => ?_
    rw [hgaps c hc]
    rfl
  cases marker with
  | bare => exact (clean_of_not_mem hx).trans hkept
  | zero =>
    -- The first pass is about the other marker and finds none of its pairs.
    have hfirst : deletePair '\\' 'x' ('0' :: 'x' :: [high, low]) = '0' :: 'x' :: [high, low] := by
      rw [deletePair_cons_of_ne (by decide), deletePair_cons_of_ne (by decide),
        deletePair_eq_self hx]
    have hsecond : deletePair '0' 'x' ('0' :: 'x' :: [high, low]) = [high, low] := by
      rw [deletePair, if_pos (by decide), deletePair_eq_self hx]
    exact (congrArg _ (congrArg _ hfirst)).trans ((congrArg _ hsecond).trans hkept)
  | backslash =>
    have hfirst : deletePair '\\' 'x' ('\\' :: 'x' :: [high, low]) = [high, low] := by
      rw [deletePair, if_pos (by decide), deletePair_eq_self hx]
    -- Here the marker is gone after the first pass, and the second has nothing to do.
    have hsecond : deletePair '0' 'x' [high, low] = [high, low] := deletePair_eq_self hx
    exact (congrArg _ (congrArg _ hfirst)).trans ((congrArg _ hsecond).trans hkept)

theorem names_clean_gap (gap : Gap) : Names (clean gap.1) [] := by
  rw [clean_separators (List.all_eq_true.mp gap.2)]
  exact .nothing

theorem SpelledByte.names_clean_text (spelled : SpelledByte) :
    Names (clean spelled.text) [spelled.byte] := by
  obtain ⟨byte, gap, marker, isHighUpper, isLowUpper⟩ := spelled
  have hlt := byte.toNat_lt
  obtain ⟨hhigh, hhigh'⟩ := digit?_inCase isHighUpper (n := byte.toNat / 16) (by omega)
  obtain ⟨hlow, hlow'⟩ := digit?_inCase isLowUpper (n := byte.toNat % 16) (by omega)
  have hnames := Names.byte hhigh hlow .nothing
  have hbyte : UInt8.ofNat (16 * (byte.toNat / 16) + byte.toNat % 16) = byte := by
    rw [Nat.div_add_mod]
    exact UInt8.ofNat_toNat
  rw [hbyte] at hnames
  -- The gap names nothing, so it can be split off before the marker is deleted.
  refine names_clean_append (names_clean_gap gap) ?_
  have hcleaned := clean_marked marker hnames.not_mem_x
    (List.forall_mem_cons.mpr ⟨hhigh', List.forall_mem_singleton.mpr hlow'⟩)
  exact hcleaned ▸ hnames

theorem names_clean_spelled (spelled : List SpelledByte) (gap : Gap) :
    Names (clean (spelled.flatMap SpelledByte.text ++ gap.1)) (spelled.map SpelledByte.byte) := by
  induction spelled with
  | nil => exact names_clean_gap gap
  | cons head rest ih =>
    rw [List.flatMap_cons, List.append_assoc]
    exact names_clean_append head.names_clean_text ih

/-- **Texts that name bytes can be joined.**  The joined text names the bytes of the one and then
those of the other. So a text made of single bytes names these bytes, where each byte is spelled in
a way of its own: separators, a marker or none, and two digits in either case. -/
theorem ofText_append_and_spelled :
    (∀ (first second : String) (bytes bytes' : List UInt8), ofText first = .ok bytes →
      ofText second = .ok bytes' → ofText (first ++ second) = .ok (bytes ++ bytes'))
    ∧ ∀ (spelled : List SpelledByte) (gap : Gap),
      ofText (spelling spelled gap) = .ok (spelled.map SpelledByte.byte) := by
  constructor
  · intro first second bytes bytes' h h'
    rw [ofText_eq_ok_iff, String.toList_append]
    exact names_clean_append (ofText_eq_ok_iff.mp h) (ofText_eq_ok_iff.mp h')
  · intro spelled gap
    rw [ofText_eq_ok_iff, spelling, String.toList_ofList]
    exact names_clean_spelled spelled gap

/-- A byte that ends in a zero before one with a marker, in two texts and in one. -/
theorem ofText_zero_before_marker :
    ofText ("0x00" ++ "\\x0f,\u3000") = .ok [0x00, 0x0f]
    ∧ ofText (spelling [⟨0x30, ⟨[','], rfl⟩, .bare, false, false⟩,
        ⟨0xd8, ⟨[], rfl⟩, .zero, true, false⟩] ⟨['\n'], rfl⟩) = .ok [0x30, 0xd8]
    ∧ spelling [⟨0x30, ⟨[','], rfl⟩, .bare, false, false⟩,
        ⟨0xd8, ⟨[], rfl⟩, .zero, true, false⟩] ⟨['\n'], rfl⟩ = ",300xD8\n" := by
  have hfirst : ofText "0x00" = .ok [0x00] := rfl
  have hsecond : ofText "\\x0f,\u3000" = .ok [0x0f] := rfl
  refine ⟨ofText_append_and_spelled.1 _ _ _ _ hfirst hsecond, ?_, by decide +kernel⟩
  exact ofText_append_and_spelled.2 _ _

end X86Gloss.HexBytes
