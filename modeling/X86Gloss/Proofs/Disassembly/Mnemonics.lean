/-
X86Gloss/Proofs/Disassembly/Mnemonics.lean

What a mnemonic in the disassembler's spelling comes to. The words in front do not count, and the
last word decides by its letters alone: `Mnemonic.IsMeant` says which mnemonic a word means, by its
own spelling or by a second name. No second name is the spelling of a mnemonic, and none is listed
twice (`Mnemonic.nodup_spellings`), so the two ways never compete.

`Mnemonic.ofSpelling_last_word` is stated for texts with blanks of any script around words of ASCII.
The blanks that are trimmed off are the ones that words are cut at, hence what is left of a text has
a last word unless it is empty.
-/
import X86Gloss.Disassembly.Spelling
import X86Gloss.Proofs.Text.Distinct
import X86Gloss.Proofs.Text.Letters
import X86Gloss.Proofs.Text.Words

namespace X86Gloss

/-! ### Words in lower case -/

/-- The text is a word that trimming and lower case leave as it is. -/
def IsLowerWord (text : String) : Prop :=
  ∀ c ∈ text.toList, c.toNat < 0x80 ∧ isBlank c = false ∧ c.toLower = c

instance (text : String) : Decidable (IsLowerWord text) :=
  @decidableOfEncoding
    (fun chars => ∀ c ∈ chars, c.toNat < 0x80 ∧ isBlank c = false ∧ c.toLower = c)
    (fun chars => List.decidableBAll _ chars) text

/-- A text without blanks at its ends is left as it is. -/
theorem trimBlanks_of_forall {text : String} (h : ∀ c ∈ text.toList, isBlank c = false) :
    trimBlanks text = text := by
  -- Nothing is dropped at the front, nor from the end, which is the front of the reversed text.
  have hdrop : ∀ chars : List Char, (∀ c ∈ chars, isBlank c = false) →
      chars.dropWhile isBlank = chars := by
    intro chars hchars
    rcases chars with - | ⟨c, rest⟩
    · rfl
    · rw [List.dropWhile_cons_of_neg (by simpa using hchars c List.mem_cons_self)]
  have hreverse : ∀ c ∈ text.toList.reverse, isBlank c = false :=
    fun c hc => h c (List.mem_reverse.mp hc)
  rw [trimBlanks, trimBoth, hdrop _ h, dropWhileEnd, hdrop _ hreverse, List.reverse_reverse,
    String.ofList_toList]

theorem trimBlanks_eq_empty {text : String} (h : ∀ c ∈ text.toList, isBlank c = true) :
    trimBlanks text = "" := by
  rw [trimBlanks, trimBoth, List.dropWhile_eq_nil_iff.mpr h]
  rfl

namespace IsLowerWord

variable {text : String}

theorem hasAsciiWords (h : IsLowerWord text) : HasAsciiWords text :=
  fun c hc _ => (h c hc).1

theorem toLower (h : IsLowerWord text) : text.toList.map Char.toLower = text.toList :=
  (List.map_congr_left fun c hc => (h c hc).2.2).trans (List.map_id _)

theorem lowerCase_trimBlanks (h : IsLowerWord text) : lowerCase (trimBlanks text) = text := by
  rw [trimBlanks_of_forall fun c hc => (h c hc).2.1]
  apply String.toList_inj.mp
  rw [toList_lowerCase h.hasAsciiWords, h.toLower]

end IsLowerWord

namespace Mnemonic

/-! ### The tables -/

/-- All spellings: no mnemonic has that of another one, and no second name is one of them. -/
theorem nodup_spellings : (all.map text ++ secondNames.map Prod.fst).Nodup :=
  nodup_of_textCodes (by decide +kernel)

theorem isLowerWord_spellings :
    ∀ spelling ∈ all.map text ++ secondNames.map Prod.fst, IsLowerWord spelling := by
  decide +kernel

theorem isLowerWord_text (mnemonic : Mnemonic) : IsLowerWord mnemonic.text :=
  isLowerWord_spellings _ (List.mem_append_left _ (List.mem_map_of_mem (mem_all mnemonic)))

/-- A second name stands for a mnemonic. -/
theorem exists_text_eq_of_secondName {name target : String} (h : (name, target) ∈ secondNames) :
    ∃ mnemonic : Mnemonic, mnemonic.text = target := by
  have htargets : ∀ pair ∈ secondNames, ∃ mnemonic ∈ all, mnemonic.text = pair.2 := by
    decide +kernel
  obtain ⟨mnemonic, -, hmnemonic⟩ := htargets _ h
  exact ⟨mnemonic, hmnemonic⟩

theorem text_injective {first second : Mnemonic} (h : first.text = second.text) :
    first = second :=
  List.inj_on_of_nodup_map (List.nodup_append.mp nodup_spellings).1 (mem_all first) (mem_all second)
    h

theorem text_ne_of_secondName {name target : String} (h : (name, target) ∈ secondNames)
    (mnemonic : Mnemonic) : mnemonic.text ≠ name :=
  (List.nodup_append.mp nodup_spellings).2.2 _ (List.mem_map_of_mem (mem_all mnemonic)) _
    (List.mem_map_of_mem h)

theorem eq_of_secondName {name target target' : String} (h : (name, target) ∈ secondNames)
    (h' : (name, target') ∈ secondNames) : target = target' := by
  have hpair := List.inj_on_of_nodup_map (List.nodup_append.mp nodup_spellings).2.1 h h' rfl
  exact (Prod.mk.inj hpair).2

theorem withText?_eq_some_iff {spelling : String} {mnemonic : Mnemonic} :
    withText? spelling = some mnemonic ↔ mnemonic.text = spelling := by
  constructor
  · intro h
    simpa using List.find?_some h
  · rintro rfl
    -- The search finds some mnemonic with the spelling, and there is no other.
    rcases hfind : withText? mnemonic.text with - | found
    · have hnone := List.find?_eq_none.mp hfind mnemonic (mem_all mnemonic)
      simp at hnone
    · have hfound := List.find?_some hfind
      rw [text_injective (of_decide_eq_true hfound)]

/-! ### What a word means -/

/-- What a word means: the mnemonic that it spells in any case, else the one that it is a second
name of, and else no mnemonic. -/
inductive IsMeant : Mnemonic → String → Prop
  | own {mnemonic word} : SameLetters word mnemonic.text → IsMeant mnemonic word
  | second {mnemonic word name} :
      (name, mnemonic.text) ∈ secondNames → SameLetters word name → IsMeant mnemonic word
  | unknown {word} :
      (∀ mnemonic : Mnemonic, ¬ SameLetters word mnemonic.text) →
      (∀ pair ∈ secondNames, ¬ SameLetters word pair.1) → IsMeant .invalid word

/-- The spelling that is looked up for a word. -/
def lookedUp (word : String) : String :=
  resolveAlias secondNames (String.ofList (word.toList.map Char.toLower))

/-- A word has the letters of one in lower case if it becomes that. -/
theorem sameLetters_iff_of_isLowerWord {word spelling : String} (h : IsLowerWord spelling) :
    SameLetters word spelling ↔ String.ofList (word.toList.map Char.toLower) = spelling := by
  rw [SameLetters, h.toLower, ← String.toList_inj, String.toList_ofList]

theorem sameLetters_iff_of_secondName {word name target : String}
    (h : (name, target) ∈ secondNames) :
    SameLetters word name ↔ String.ofList (word.toList.map Char.toLower) = name :=
  sameLetters_iff_of_isLowerWord
    (isLowerWord_spellings _ (List.mem_append_right _ (List.mem_map_of_mem h)))

theorem lookedUp_of_secondName {word name target : String} (h : (name, target) ∈ secondNames)
    (hword : SameLetters word name) : lookedUp word = target := by
  rw [lookedUp, (sameLetters_iff_of_secondName h).mp hword]
  exact resolveAlias_of_mem (List.nodup_append.mp nodup_spellings).2.1 h

theorem lookedUp_of_forall {word : String} (h : ∀ pair ∈ secondNames, ¬ SameLetters word pair.1) :
    lookedUp word = String.ofList (word.toList.map Char.toLower) := by
  apply resolveAlias_of_forall
  intro pair hpair hname
  exact h pair hpair ((sameLetters_iff_of_secondName hpair).mpr hname.symm)

theorem isMeant_iff_of_secondName {meant mnemonic : Mnemonic} {word name : String}
    (hpair : (name, meant.text) ∈ secondNames) (hword : SameLetters word name) :
    IsMeant mnemonic word ↔ meant = mnemonic := by
  have hname := (sameLetters_iff_of_secondName hpair).mp hword
  constructor
  · rintro (hown | ⟨hpair', hword'⟩ | ⟨-, hno⟩)
    · rw [sameLetters_iff_of_isLowerWord (isLowerWord_text _), hname] at hown
      exact absurd hown.symm (text_ne_of_secondName hpair _)
    · rw [sameLetters_iff_of_secondName hpair', hname] at hword'
      rw [← hword'] at hpair'
      exact text_injective (eq_of_secondName hpair hpair')
    · exact absurd hword (hno _ hpair)
  · rintro rfl
    exact .second hpair hword

theorem isMeant_iff_of_forall {mnemonic : Mnemonic} {word : String}
    (hno : ∀ pair ∈ secondNames, ¬ SameLetters word pair.1) :
    IsMeant mnemonic word ↔ (withText? (lookedUp word)).getD .invalid = mnemonic := by
  have hown : ∀ mnemonic : Mnemonic,
      SameLetters word mnemonic.text ↔ withText? (lookedUp word) = some mnemonic := by
    intro mnemonic
    rw [withText?_eq_some_iff, lookedUp_of_forall hno,
      sameLetters_iff_of_isLowerWord (isLowerWord_text _), eq_comm]
  constructor
  · rintro (hmnemonic | ⟨hpair, hword⟩ | ⟨hnone, -⟩)
    · rw [(hown _).mp hmnemonic, Option.getD_some]
    · exact absurd hword (hno _ hpair)
    · have hfind : withText? (lookedUp word) = none := by
        rw [Option.eq_none_iff_forall_ne_some]
        exact fun mnemonic hmnemonic => hnone mnemonic ((hown mnemonic).mpr hmnemonic)
      rw [hfind, Option.getD_none]
  · rintro rfl
    rcases hfind : withText? (lookedUp word) with - | found
    · refine .unknown (fun mnemonic hmnemonic => ?_) hno
      rw [hown, hfind] at hmnemonic
      cases hmnemonic
    · exact .own ((hown found).mpr hfind)

/-- Looking up the word finds what it means. -/
theorem isMeant_iff {mnemonic : Mnemonic} {word : String} :
    IsMeant mnemonic word ↔ (withText? (lookedUp word)).getD .invalid = mnemonic := by
  by_cases hsecond : ∃ pair ∈ secondNames, SameLetters word pair.1
  · obtain ⟨⟨name, target⟩, hpair, hword⟩ := hsecond
    obtain ⟨meant, rfl⟩ := exists_text_eq_of_secondName hpair
    rw [isMeant_iff_of_secondName hpair hword, lookedUp_of_secondName hpair hword,
      withText?_eq_some_iff.mpr rfl, Option.getD_some]
  · exact isMeant_iff_of_forall fun pair hpair hword => hsecond ⟨pair, hpair, hword⟩

theorem isLowerWord_lookedUp {word : String}
    (h : ∀ c ∈ word.toList, c.toNat < 0x80 ∧ isBlank c = false) : IsLowerWord (lookedUp word) := by
  by_cases hsecond : ∃ pair ∈ secondNames, SameLetters word pair.1
  · obtain ⟨⟨name, target⟩, hpair, hword⟩ := hsecond
    obtain ⟨meant, rfl⟩ := exists_text_eq_of_secondName hpair
    rw [lookedUp_of_secondName hpair hword]
    exact isLowerWord_text meant
  · rw [lookedUp_of_forall fun pair hpair hword => hsecond ⟨pair, hpair, hword⟩, IsLowerWord,
      String.toList_ofList]
    refine List.forall_mem_map.mpr fun c hc => ?_
    obtain ⟨hascii, hblank⟩ := h c hc
    refine ⟨?_, (isBlank_toLower c).trans hblank, Char.toLower_toLower_eq_toLower c⟩
    exact forall_ascii (p := fun c => c.toLower.toNat < 0x80) (by decide) hascii

/-! ### The last word of a spelling -/

/-- Trimming and lower case change the letters of the words only. -/
theorem wordsBy_lowerCase_trimBlanks {text : String} (h : HasAsciiWords text) :
    wordsBy isBlank (lowerCase (trimBlanks text)).toList
      = (wordsBy isBlank text.toList).map (List.map Char.toLower) := by
  have hkept : HasAsciiWords (trimBlanks text) := by
    intro c hc
    rw [trimBlanks, String.toList_ofList, trimBoth, dropWhileEnd, List.mem_reverse] at hc
    have hc' := (List.dropWhile_sublist _).subset hc
    exact h c ((List.dropWhile_sublist _).subset (List.mem_reverse.mp hc'))
  rw [toList_lowerCase hkept, wordsBy_map isBlank_toLower, trimBlanks, String.toList_ofList,
    wordsBy_trimBoth]

theorem ofSpelling_eq_ofText {text : String} (h : HasAsciiWords text) :
    ofSpelling text = ofText (lookedUp (String.ofList (lastWord text.toList))) := by
  have hlast : lastWord (lowerCase (trimBlanks text)).toList
      = (lastWord text.toList).map Char.toLower := by
    rw [lastWord_eq_getD, wordsBy_lowerCase_trimBlanks h, List.getLast?_map, lastWord_eq_getD]
    cases (wordsBy isBlank text.toList).getLast? <;> rfl
  rw [ofSpelling, hlast, lookedUp, String.toList_ofList]

theorem ofSpelling_eq_iff_isMeant {text word : String} (h : HasAsciiWords text)
    (hword : (words text).getLast? = some word) {mnemonic : Mnemonic} :
    ofSpelling text = mnemonic ↔ IsMeant mnemonic word := by
  obtain ⟨-, hlast⟩ := getLast?_words_eq_some_iff.mp hword
  have hchars : ∀ c ∈ word.toList, c.toNat < 0x80 ∧ isBlank c = false := by
    intro c hc
    rw [← hlast] at hc
    exact ⟨h c (mem_of_mem_lastWord hc) (notBlank_of_mem_lastWord hc), notBlank_of_mem_lastWord hc⟩
  rw [ofSpelling_eq_ofText h, hlast, String.ofList_toList, ofText,
    (isLowerWord_lookedUp hchars).lowerCase_trimBlanks, isMeant_iff]

/-- **Only the last word of a spelling counts.**  A text without a word spells no mnemonic.  Any
other text spells what its last word spells alone, and that is what the word means.  Taking the last
word never fails: whatever is left of a text between the blanks around it has one. -/
theorem ofSpelling_last_word (text : String) (h : HasAsciiWords text) :
    (trimBlanks text ≠ "" → words (lowerCase (trimBlanks text)) ≠ [])
    ∧ (words text = [] → ofSpelling text = .invalid)
    ∧ ∀ word, (words text).getLast? = some word →
        ofSpelling text = ofSpelling word
        ∧ ∀ mnemonic, ofSpelling text = mnemonic ↔ IsMeant mnemonic word := by
  refine ⟨?_, ?_, ?_⟩
  · intro hleft hnone
    rw [words, wordsBy_lowerCase_trimBlanks h, List.map_eq_nil_iff, List.map_eq_nil_iff] at hnone
    exact hleft (trimBlanks_eq_empty (isBlank_of_words_eq_nil (congrArg _ hnone)))
  · intro hnone
    have hlast : lastWord text.toList = [] := by
      rw [lastWord_eq_getD, List.map_eq_nil_iff.mp hnone]
      rfl
    rw [ofSpelling_eq_ofText h, hlast]
    decide +kernel
  · intro word hword
    have hmeant : ∀ mnemonic, ofSpelling text = mnemonic ↔ IsMeant mnemonic word :=
      fun mnemonic => ofSpelling_eq_iff_isMeant h hword
    have halone : HasAsciiWords word := by
      intro c hc hblank
      rw [← (getLast?_words_eq_some_iff.mp hword).2] at hc
      exact h c (mem_of_mem_lastWord hc) hblank
    refine ⟨?_, hmeant⟩
    rw [hmeant, ← ofSpelling_eq_iff_isMeant halone (getLast?_words_self hword)]

theorem ofSpelling_last_word_bnd :
    HasAsciiWords "\u2003 BND rep  JGE\u00a0 "
    ∧ (words "\u2003 BND rep  JGE\u00a0 ").getLast? = some "JGE"
    ∧ ofSpelling "\u2003 BND rep  JGE\u00a0 " = .jnl := by
  have hascii : HasAsciiWords "\u2003 BND rep  JGE\u00a0 " := by decide +kernel
  have hword : (words "\u2003 BND rep  JGE\u00a0 ").getLast? = some "JGE" := by decide +kernel
  obtain ⟨-, -, hlast⟩ := ofSpelling_last_word _ hascii
  have hname : ("jge", Mnemonic.jnl.text) ∈ secondNames := by decide
  exact ⟨hascii, hword, ((hlast "JGE" hword).2 .jnl).mpr (.second hname (by decide))⟩

end Mnemonic

end X86Gloss
