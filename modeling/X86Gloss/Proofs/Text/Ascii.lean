/-
X86Gloss/Proofs/Text/Ascii.lean

ASCII texts and their bytes. A text of ASCII characters has one byte for each character, and
the bytes give the text back; concatenation goes along with both.
-/
import X86Gloss.Sink

namespace X86Gloss

/-! ### ASCII texts -/

/-- Every character of the text is ASCII. -/
def IsAscii (text : String) : Prop := ∀ c ∈ text.toList, c.toNat < 0x80

/-- An ASCII character is encoded by itself; every other one takes bytes above those of ASCII. -/
theorem isAscii_char_iff_bytes {c : Char} :
    c.toNat < 0x80 ↔ ∀ byte ∈ String.utf8EncodeChar c, byte.toNat < 0x80 := by
  have hval : c.toNat = c.val.toNat := rfl
  rw [hval]
  fun_cases String.utf8EncodeChar
  all_goals
    rename_i h
    simp only [List.forall_mem_cons, UInt8.toNat_ofNat', List.not_mem_nil, false_imp_iff,
      implies_true, and_true]
    omega

theorem isAscii_iff_bytes {text : String} :
    IsAscii text ↔ ∀ byte ∈ text.toByteArray.data.toList, byte.toNat < 0x80 := by
  obtain ⟨chars, rfl⟩ : ∃ chars, text = String.ofList chars := ⟨text.toList, by simp⟩
  simp only [IsAscii, String.toList_ofList, String.toByteArray_ofList, List.utf8Encode,
    List.toList_data_toByteArray, List.mem_flatMap, isAscii_char_iff_bytes]
  constructor
  · rintro h byte ⟨c, hc, hbyte⟩
    exact h c hc byte hbyte
  · intro h c hc byte hbyte
    exact h byte ⟨c, hc, hbyte⟩

-- The bytes of a literal are at hand, its characters have to be decoded from them.
instance (text : String) : Decidable (IsAscii text) :=
  decidable_of_iff ((text.toByteArray.data.toList.all fun byte => byte.toNat < 0x80) = true) <| by
    simp only [isAscii_iff_bytes, List.all_eq_true, decide_eq_true_eq]

theorem isAscii_empty : IsAscii "" := by
  simp [IsAscii]

theorem isAscii_append {first second : String} :
    IsAscii (first ++ second) ↔ IsAscii first ∧ IsAscii second := by
  simp only [IsAscii, String.toList_append, List.mem_append, or_imp, forall_and]

theorem isAscii_join {pieces : List String} :
    IsAscii (String.join pieces) ↔ ∀ piece ∈ pieces, IsAscii piece := by
  induction pieces with
  | nil => simp [isAscii_empty]
  | cons piece pieces ih => simp [isAscii_append, ih]

/-! ### Their bytes -/

/-- One byte for each character. -/
def bytesOf (text : String) : List UInt8 := text.toList.map fun c => UInt8.ofNat c.toNat

@[simp] theorem length_bytesOf (text : String) : (bytesOf text).length = text.length := by
  rw [bytesOf, List.length_map, String.length_toList]

@[simp] theorem bytesOf_append (first second : String) :
    bytesOf (first ++ second) = bytesOf first ++ bytesOf second := by
  simp [bytesOf]

theorem asciiBytes?_of_isAscii {text : String} (h : IsAscii text) :
    asciiBytes? text = some (bytesOf text) := by
  have hall : text.toList.all (fun c => c.toNat < 0x80) = true := by simpa [IsAscii] using h
  simp only [asciiBytes?, hall, if_true, bytesOf]

theorem asciiBytes?_eq_none_iff {text : String} : asciiBytes? text = none ↔ ¬ IsAscii text := by
  constructor
  · intro h hascii
    rw [asciiBytes?_of_isAscii hascii] at h
    cases h
  · intro h
    have hall : ¬ text.toList.all (fun c => c.toNat < 0x80) = true := by simpa [IsAscii] using h
    simp only [asciiBytes?, if_neg hall]

theorem toNat_byte {c : Char} (h : c.toNat < 0x80) : (UInt8.ofNat c.toNat).toNat = c.toNat := by
  rw [UInt8.toNat_ofNat']
  exact Nat.mod_eq_of_lt (by omega)

/-- An ASCII character comes back from its byte. -/
theorem ofNat_toNat_byte {c : Char} (h : c.toNat < 0x80) :
    Char.ofNat (UInt8.ofNat c.toNat).toNat = c := by
  rw [toNat_byte h, Char.ofNat_toNat]

/-- An ASCII text comes back from its bytes. -/
theorem byteText_bytesOf {text : String} (h : IsAscii text) : byteText (bytesOf text) = text := by
  have hmap : text.toList.map (fun c => Char.ofNat (UInt8.ofNat c.toNat).toNat) = text.toList :=
    (List.map_congr_left fun c hc => ofNat_toNat_byte (h c hc)).trans (List.map_id' _)
  simp only [byteText, bytesOf, List.map_map, Function.comp_def, hmap, String.ofList_toList]

/-- So does a text from bytes that are read as ASCII. -/
theorem asciiText?_bytesOf {text : String} (h : IsAscii text) :
    asciiText? (bytesOf text) = some text := by
  have hall : (bytesOf text).all (fun byte => byte.toNat < 0x80) = true := by
    rw [bytesOf, List.all_map, List.all_eq_true]
    intro c hc
    exact decide_eq_true (by rw [toNat_byte (h c hc)]; exact h c hc)
  rw [asciiText?, if_pos hall, byteText_bytesOf h]

/-- An ASCII character is encoded by the byte that it is. -/
theorem utf8EncodeChar_of_lt {c : Char} (h : c.toNat < 0x80) :
    String.utf8EncodeChar c = [UInt8.ofNat c.toNat] := by
  have hval : c.toNat = c.val.toNat := rfl
  rw [hval] at h ⊢
  fun_cases String.utf8EncodeChar
  · rfl
  all_goals omega

/-- The bytes of an ASCII text are those of its encoding. -/
theorem bytesOf_eq_encoding {text : String} (h : IsAscii text) :
    bytesOf text = text.toByteArray.data.toList := by
  obtain ⟨chars, rfl⟩ : ∃ chars, text = String.ofList chars := ⟨text.toList, by simp⟩
  simp only [IsAscii, String.toList_ofList] at h
  simp only [bytesOf, String.toList_ofList, String.toByteArray_ofList, List.utf8Encode,
    List.toList_data_toByteArray]
  induction chars with
  | nil => rfl
  | cons c chars ih =>
    rw [List.flatMap_cons, List.map_cons, utf8EncodeChar_of_lt (h c List.mem_cons_self),
      ih fun d hd => h d (List.mem_cons_of_mem c hd)]
    rfl

/-- The characters of an ASCII text, one for each byte of its encoding. -/
theorem toList_eq_map_encoding {text : String} (h : IsAscii text) :
    text.toList = text.toByteArray.data.toList.map fun byte => Char.ofNat byte.toNat := by
  have hback := congrArg String.toList (byteText_bytesOf h)
  rw [byteText, String.toList_ofList, bytesOf_eq_encoding h] at hback
  exact hback.symm

/-- A property of the characters of a text is decided on its encoding if that is ASCII, which
spares the decoding. -/
@[reducible] def decidableOfEncoding (p : List Char → Prop) [DecidablePred p] (text : String) :
    Decidable (p text.toList) :=
  if h : IsAscii text then
    decidable_of_iff (p (text.toByteArray.data.toList.map fun byte => Char.ofNat byte.toNat)) <| by
      rw [toList_eq_map_encoding h]
  else inferInstance

/-! ### Digits -/

/-- Digits are digit characters, whatever the base. -/
theorem Numeral.mem_toDigits {base : Nat} (hbase : 1 < base) {n : Nat} {c : Char}
    (h : c ∈ Nat.toDigits base n) : ∃ digit : Nat, c = digit.digitChar := by
  induction n using Nat.strongRecOn with
  | ind n ih =>
    rw [Nat.toDigits_eq_if hbase] at h
    split at h
    · exact ⟨n, by simpa using h⟩
    · rename_i hn
      rcases List.mem_append.mp h with h | h
      · exact ih (n / base) (Nat.div_lt_self (by omega) hbase) h
      · exact ⟨n % base, by simpa using h⟩

end X86Gloss
