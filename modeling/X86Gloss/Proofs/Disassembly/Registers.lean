/-
X86Gloss/Proofs/Disassembly/Registers.lean

What a register name in the disassembler's spelling comes to. `Register.IsSpelled` lists the
spellings of a register: its own name, for the stack a place in parentheses, and second names. A
name is rewritten twice before it is looked up, and neither step takes the spelling of one register
to another: what stood in parentheses behind `st` can only complete a name that begins with these
letters, and those are the places of the stack; and no second name is the name of a register.

`RegisterLookup.ofSpelling_eq_found_iff` says that a name is found exactly where it is a spelling,
and `RegisterLookup.accepts_spellings` what this comes to for identifiers and rows.
-/
import X86Gloss.Disassembly.Spelling
import X86Gloss.Proofs.Record.Renderable
import X86Gloss.Proofs.Text.Distinct
import X86Gloss.Proofs.Text.Letters
import X86Gloss.Proofs.Text.Numeral

namespace X86Gloss

namespace Register

/-! ### The tables -/

/-- What the names of the table are like: not empty, in upper case and without parentheses, and a
name that begins like the stack is that of one of its places. -/
def IsTableName (name : String) : Prop :=
  (∀ c ∈ name.toList, c.toUpper = c ∧ c.toLower ≠ '(')
    ∧ name.toList ≠ []
    ∧ (name.toList.take 2 = ['S', 'T'] →
        ∃ place ∈ List.range 8, name.toList.drop 2 = [Nat.digitChar place])

instance (name : String) : Decidable (IsTableName name) :=
  @decidableOfEncoding
    (fun chars => (∀ c ∈ chars, c.toUpper = c ∧ c.toLower ≠ '(')
      ∧ chars ≠ []
      ∧ (chars.take 2 = ['S', 'T'] → ∃ place ∈ List.range 8, chars.drop 2 = [Nat.digitChar place]))
    (fun chars => @instDecidableAnd _ _ (List.decidableBAll _ chars) inferInstance) name

theorem isTableName_name : ∀ register ∈ table, IsTableName register.name := by
  decide +kernel

/-- What the second names are like: in lower case, not beginning like the stack, and for names in
upper case. -/
structure IsSecondName (spelling target : String) : Prop where
  lower : spelling.toList.map Char.toLower = spelling.toList
  head : spelling.toList.head? ≠ some 's'
  upper : target.toList.map Char.toUpper = target.toList
  ascii : IsAscii target

theorem isSecondName_of_mem {spelling target : String} (h : (spelling, target) ∈ secondNames) :
    IsSecondName spelling target := by
  have hall : ∀ pair ∈ secondNames, pair.1.toList.map Char.toLower = pair.1.toList
      ∧ pair.1.toList.head? ≠ some 's' ∧ pair.2.toList.map Char.toUpper = pair.2.toList
      ∧ IsAscii pair.2 := by
    decide +kernel
  obtain ⟨hlower, hhead, hupper, hascii⟩ := hall _ h
  exact ⟨hlower, hhead, hupper, hascii⟩

/-- No two registers have the same name, and no second name, of which none is listed twice, is the
name of a register. -/
theorem nodup_names :
    (table.map name ++ secondNames.map fun pair =>
      String.ofList (pair.1.toList.map Char.toUpper)).Nodup :=
  nodup_of_textCodes (by decide +kernel)

theorem nodup_secondNames : (secondNames.map Prod.fst).Nodup := by
  have hupper := (List.nodup_append.mp nodup_names).2.1
  refine List.Nodup.of_map (fun spelling => String.ofList (spelling.toList.map Char.toUpper)) ?_
  rwa [List.map_map]

theorem map_toUpper_name {register : Register} (h : register ∈ table) :
    register.name.toList.map Char.toUpper = register.name.toList :=
  (List.map_congr_left fun c hc => ((isTableName_name _ h).1 c hc).1).trans (List.map_id _)

theorem idOfName?_eq_some_iff {spelling : String} {id : Nat} :
    idOfName? spelling = some id
      ↔ ∃ register, table[id]? = some register ∧ register.name = spelling := by
  rw [idOfName?, List.findIdx?_eq_some_iff_getElem]
  constructor
  · rintro ⟨hid, hname, -⟩
    exact ⟨table[id], List.getElem?_eq_getElem hid, by simpa using hname⟩
  · rintro ⟨register, hregister, rfl⟩
    obtain ⟨hid, rfl⟩ := List.getElem?_eq_some_iff.mp hregister
    refine ⟨hid, decide_eq_true rfl, ?_⟩
    intro earlier hearlier hname
    -- An earlier register with the name would be the same one.
    have hindex : earlier = id := by
      refine (List.getElem?_inj ?_ (List.nodup_append.mp nodup_names).1).mp ?_
      · rw [List.length_map]
        omega
      · rw [List.getElem?_map, List.getElem?_map, hregister, List.getElem?_eq_getElem (by omega),
          Option.map_some, Option.map_some, of_decide_eq_true hname]
    omega

/-- No register stands first in the table, and no other place has its name. -/
theorem getElem?_table_zero : table[0]? = some absent := rfl

theorem name_ne_of_ne_absentId {id : Nat} {register : Register}
    (hregister : table[id]? = some register) (hid : (id : Int) ≠ absentId) :
    register.name ≠ absent.name := by
  intro hname
  have hfirst : idOfName? absent.name = some 0 :=
    idOfName?_eq_some_iff.mpr ⟨absent, getElem?_table_zero, rfl⟩
  have hlater := idOfName?_eq_some_iff.mpr ⟨register, hregister, hname⟩
  rw [hfirst, Option.some.injEq] at hlater
  exact hid (congrArg Int.ofNat hlater.symm)

/-- A name is looked up by its letters. -/
theorem idOfAnyCase?_eq_some_iff {spelling : String} (h : IsAscii spelling) {id : Nat} :
    idOfAnyCase? spelling = some id
      ↔ ∃ register, table[id]? = some register ∧ SameLetters spelling register.name := by
  rw [idOfAnyCase?, idOfName?_eq_some_iff, upperCase_of_isAscii h]
  refine exists_congr fun register => and_congr_right fun hregister => ?_
  rw [sameLetters_iff_upper, map_toUpper_name (List.mem_of_getElem? hregister), ← String.toList_inj,
    String.toList_ofList, eq_comm]

/-! ### Spellings -/

/-- The spellings of a register: in any case its name, a place of the stack in parentheses, or a
second name. -/
inductive IsSpelled (register : Register) (name : String) : Prop
  | own : SameLetters name register.name → IsSpelled register name
  | place (place : Nat) : register.name = "ST" ++ place.repr →
      SameLetters name ("st(" ++ place.repr ++ ")") → IsSpelled register name
  | second (spelling : String) : (spelling, register.name) ∈ secondNames →
      SameLetters name spelling → IsSpelled register name

theorem IsSpelled.of_sameLetters {register : Register} {first second : String}
    (h : SameLetters first second) (hsecond : register.IsSpelled second) :
    register.IsSpelled first := by
  rcases hsecond with hown | ⟨place, hplace, hname⟩ | ⟨spelling, hpair, hname⟩
  · exact .own (h.trans hown)
  · exact .place place hplace (h.trans hname)
  · exact .second spelling hpair (h.trans hname)

theorem map_toLower_repr (place : Nat) :
    place.repr.toList.map Char.toLower = place.repr.toList := by
  refine (List.map_congr_left fun c hc => ?_).trans (List.map_id _)
  have hdigit := Numeral.isDigit_of_mem_repr hc
  apply Char.toLower_eq_of_not_isUpper
  rw [Char.isDigit, Bool.and_eq_true, decide_eq_true_eq, decide_eq_true_eq] at hdigit
  rw [Char.isUpper, decide_eq_true_eq]
  rintro ⟨hupper, -⟩
  exact absurd (UInt32.le_trans hupper hdigit.2) (by decide)

/-- The letters of a place in parentheses. -/
theorem map_toLower_place (place : Nat) :
    ("st(" ++ place.repr ++ ")").toList.map Char.toLower
      = 's' :: 't' :: '(' :: (place.repr.toList ++ [')']) := by
  rw [String.toList_append, String.toList_append, List.map_append, List.map_append,
    map_toLower_repr]
  rfl

/-- A name that begins like the stack is that of a place. -/
theorem eq_place_of_stack {register : Register} (hregister : register ∈ table) {rest : List Char}
    (h : register.name.toList = 'S' :: 'T' :: rest) :
    ∃ place : Nat, rest = place.repr.toList ∧ register.name = "ST" ++ place.repr := by
  obtain ⟨place, hplace, hrest⟩ := (isTableName_name register hregister).2.2 (by rw [h]; rfl)
  rw [List.mem_range] at hplace
  rw [h] at hrest
  have hrepr : rest = place.repr.toList := by
    rw [Nat.toList_repr, Nat.toDigits_of_lt_base (by omega)]
    exact hrest
  refine ⟨place, hrepr, ?_⟩
  apply String.toList_inj.mp
  rw [h, hrepr, String.toList_append]
  rfl

/-- Parentheses behind `st` are dropped, from other names nothing is. -/
theorem dropStackMarks_cases (name : String) :
    (∃ inner, name.toList = 's' :: 't' :: '(' :: (inner ++ [')'])
        ∧ dropStackMarks name = "st" ++ String.ofList inner)
      ∨ (∀ inner, name.toList ≠ 's' :: 't' :: '(' :: (inner ++ [')']))
        ∧ dropStackMarks name = name := by
  unfold dropStackMarks
  split
  · rename_i rest hname
    split
    · rename_i hlast
      refine .inl ⟨rest.dropLast, ?_, rfl⟩
      rw [hname, List.dropLast_append_getLast? _ hlast]
    · rename_i hlast
      refine .inr ⟨?_, rfl⟩
      intro inner heq
      rw [hname, List.cons.injEq, List.cons.injEq, List.cons.injEq] at heq
      -- The last character would be the closing parenthesis.
      rw [heq.2.2.2, List.getLast?_append, List.getLast?_singleton] at hlast
      exact hlast rfl
  · rename_i hother
    exact .inr ⟨fun inner heq => hother _ heq, rfl⟩

/-! ### The name that is looked up -/

/-- The name that is looked up for a spelling. -/
def lookedUp (name : String) : String :=
  resolveAlias secondNames (dropStackMarks (lowerCase name))

section

variable {name : String} {register : Register}

/-- A name in lower case with the letters of a place in parentheses. -/
theorem toList_eq_of_place (hlower : name.toList.map Char.toLower = name.toList) {place : Nat}
    (hletters : SameLetters name ("st(" ++ place.repr ++ ")")) :
    name.toList = 's' :: 't' :: '(' :: (place.repr.toList ++ [')']) :=
  hlower.symm.trans (hletters.trans (map_toLower_place place))

/-- A name in lower case with the letters of a second name is that. -/
theorem eq_of_second (hlower : name.toList.map Char.toLower = name.toList)
    {spelling target : String} (hpair : (spelling, target) ∈ secondNames)
    (hletters : SameLetters name spelling) : name = spelling := by
  apply String.toList_inj.mp
  rw [← hlower, hletters, (isSecondName_of_mem hpair).lower]

/-- What stood in parentheses has to be a place of the stack. -/
theorem isSpelled_iff_of_stack {inner : List Char} (hregister : register ∈ table)
    (hlower : name.toList.map Char.toLower = name.toList)
    (hname : name.toList = 's' :: 't' :: '(' :: (inner ++ [')'])) :
    register.IsSpelled name ↔ SameLetters ("st" ++ String.ofList inner) register.name := by
  have hinner : inner.map Char.toLower = inner := by
    rw [hname] at hlower
    simpa using hlower
  have hshown : ("st" ++ String.ofList inner).toList = 's' :: 't' :: inner := by
    simp
  constructor
  · rintro (hown | ⟨place, hplace, hletters⟩ | ⟨spelling, hpair, hletters⟩)
    · -- No register has a parenthesis in its name.
      have hmem : '(' ∈ register.name.toList.map Char.toLower := by
        rw [← hown, hlower, hname]
        simp
      obtain ⟨c, hc, hparen⟩ := List.mem_map.mp hmem
      exact absurd hparen ((isTableName_name _ hregister).1 c hc).2
    · -- The place is what stands in parentheses, so without them the name is its own.
      have hplaces := toList_eq_of_place hlower hletters
      rw [hname] at hplaces
      have hdigits : inner = place.repr.toList := by simpa using hplaces
      rw [hdigits, hplace, String.ofList_toList, SameLetters, String.toList_append,
        String.toList_append, List.map_append, List.map_append]
      rfl
    · -- A second name would begin like the stack.
      apply absurd _ (isSecondName_of_mem hpair).head
      rw [← eq_of_second hlower hpair hletters, hname]
      rfl
  · intro hletters
    rw [sameLetters_iff_upper, map_toUpper_name hregister, hshown] at hletters
    -- Of the names that begin like the stack the table has only those of its places.
    obtain ⟨place, hrest, hplace⟩ := eq_place_of_stack hregister hletters.symm
    have hdigits : inner = place.repr.toList := by
      have hback := congrArg (List.map Char.toLower) hrest
      rw [map_toLower_repr, List.map_map] at hback
      simpa only [Function.comp_def, Char.toLower_toUpper_eq_toLower, hinner] using hback
    exact .place place hplace (hlower.trans (by rw [hname, hdigits, map_toLower_place]))

theorem isSpelled_iff_of_second {spelling target : String} (hregister : register ∈ table)
    (hpair : (spelling, target) ∈ secondNames) :
    register.IsSpelled spelling ↔ SameLetters target register.name := by
  obtain ⟨hlower, hhead, hupper, -⟩ := isSecondName_of_mem hpair
  constructor
  · rintro (hown | ⟨place, hplace, hletters⟩ | ⟨spelling', hpair', hletters⟩)
    · rw [sameLetters_iff_upper, map_toUpper_name hregister] at hown
      -- A register would have a second name for its own.
      refine absurd ?_ ((List.nodup_append.mp nodup_names).2.2 _ (List.mem_map_of_mem hregister) _
        (List.mem_map_of_mem hpair))
      rw [hown, String.ofList_toList]
    · have hstack := toList_eq_of_place hlower hletters
      exact absurd (congrArg List.head? hstack) hhead
    · have hsame := eq_of_second hlower hpair' hletters
      have hpairs := List.inj_on_of_nodup_map nodup_secondNames hpair hpair' hsame
      rw [(Prod.mk.inj hpairs).2]
      rfl
  · intro hletters
    rw [sameLetters_iff_upper, map_toUpper_name hregister] at hletters
    have htarget : target = register.name := String.toList_inj.mp (hupper.symm.trans hletters)
    rw [htarget] at hpair
    exact .second spelling hpair rfl

theorem isSpelled_iff_of_other (hlower : name.toList.map Char.toLower = name.toList)
    (hstack : ∀ inner, name.toList ≠ 's' :: 't' :: '(' :: (inner ++ [')']))
    (hsecond : ∀ pair ∈ secondNames, pair.1 ≠ name) :
    register.IsSpelled name ↔ SameLetters name register.name := by
  refine ⟨?_, .own⟩
  rintro (hown | ⟨place, hplace, hletters⟩ | ⟨spelling, hpair, hletters⟩)
  · exact hown
  · exact absurd (toList_eq_of_place hlower hletters) (hstack _)
  · exact absurd (eq_of_second hlower hpair hletters).symm (hsecond _ hpair)

/-- The three ways of a name: without its parentheses, by its second name, or as it is. -/
theorem lookedUp_cases (name : String) :
    (∃ inner, (lowerCase name).toList = 's' :: 't' :: '(' :: (inner ++ [')'])
        ∧ lookedUp name = "st" ++ String.ofList inner)
      ∨ (lowerCase name, lookedUp name) ∈ secondNames
      ∨ (∀ inner, (lowerCase name).toList ≠ 's' :: 't' :: '(' :: (inner ++ [')']))
        ∧ (∀ pair ∈ secondNames, pair.1 ≠ lowerCase name) ∧ lookedUp name = lowerCase name := by
  unfold lookedUp
  rcases dropStackMarks_cases (lowerCase name) with ⟨inner, hname, hdropped⟩ | ⟨hstack, hkept⟩
  · refine .inl ⟨inner, hname, ?_⟩
    rw [hdropped]
    -- What is left of a place begins like the stack, so no second name is looked up for it.
    apply resolveAlias_of_forall
    intro pair hpair heq
    apply (isSecondName_of_mem hpair).head
    rw [heq, String.toList_append]
    rfl
  · rw [hkept]
    by_cases hsecond : ∃ pair ∈ secondNames, pair.1 = lowerCase name
    · obtain ⟨⟨spelling, target⟩, hpair, rfl⟩ := hsecond
      refine .inr (.inl ?_)
      rw [resolveAlias_of_mem nodup_secondNames hpair]
      exact hpair
    · have hother : ∀ pair ∈ secondNames, pair.1 ≠ lowerCase name :=
        fun pair hpair heq => hsecond ⟨pair, hpair, heq⟩
      exact .inr (.inr ⟨hstack, hother, resolveAlias_of_forall hother⟩)

/-- Looking up the name that a spelling comes to finds the register that it is a spelling of. -/
theorem isSpelled_iff (h : IsAscii name) (hregister : register ∈ table) :
    register.IsSpelled name ↔ SameLetters (lookedUp name) register.name := by
  have hlowered := toList_lowerCase h.hasAsciiWords
  have hlower : (lowerCase name).toList.map Char.toLower = (lowerCase name).toList := by
    rw [hlowered, List.map_map]
    exact List.map_congr_left fun c _ => Char.toLower_toLower_eq_toLower c
  have hsame : SameLetters name (lowerCase name) := hlowered.symm.trans hlower.symm
  -- Case does not count for a spelling, so the name may be taken in lower case, as it is looked up.
  have hmoved : register.IsSpelled name ↔ register.IsSpelled (lowerCase name) :=
    ⟨.of_sameLetters hsame.symm, .of_sameLetters hsame⟩
  rw [hmoved]
  rcases lookedUp_cases name with ⟨inner, hname, hlooked⟩ | hpair | ⟨hstack, hsecond, hlooked⟩
  · rw [hlooked, isSpelled_iff_of_stack hregister hlower hname]
  · exact isSpelled_iff_of_second hregister hpair
  · rw [hlooked, isSpelled_iff_of_other hlower hstack hsecond]

theorem isAscii_lookedUp (h : IsAscii name) : IsAscii (lookedUp name) := by
  have hlower : IsAscii (lowerCase name) := by
    unfold IsAscii
    rw [toList_lowerCase h.hasAsciiWords]
    exact List.forall_mem_map.mpr fun c hc =>
      forall_ascii (p := fun c => c.toLower.toNat < 0x80) (by decide) (h c hc)
  rcases lookedUp_cases name with ⟨inner, hname, hlooked⟩ | hpair | ⟨-, -, hlooked⟩
  · rw [hlooked, isAscii_append]
    refine ⟨by decide, fun c hc => hlower c ?_⟩
    rw [hname]
    rw [String.toList_ofList] at hc
    simp [hc]
  · exact (isSecondName_of_mem hpair).ascii
  · rw [hlooked]
    exact hlower

theorem not_isSpelled_empty (hregister : register ∈ table) : ¬ register.IsSpelled "" := by
  have hlooked : lookedUp "" = "" := by decide +kernel
  rw [isSpelled_iff isAscii_empty hregister, hlooked, sameLetters_iff_upper,
    map_toUpper_name hregister]
  exact fun hempty => (isTableName_name _ hregister).2.1 hempty.symm

/-- The spellings of no register. -/
theorem isSpelled_absent_iff :
    absent.IsSpelled name ↔ ∃ spelling ∈ ["none", "eiz", "riz"], SameLetters name spelling := by
  constructor
  · rintro (hown | ⟨place, hplace, -⟩ | ⟨spelling, hpair, hletters⟩)
    · have hnone : SameLetters absent.name "none" := by decide
      exact ⟨"none", by simp, hown.trans hnone⟩
    · -- No place of the stack: the names differ in their first letters.
      have hhead := congrArg (fun name => name.toList.head?) hplace
      rw [String.toList_append] at hhead
      replace hhead : some 'N' = some 'S' := hhead
      exact absurd hhead (by decide)
    · have hnone : ∀ pair ∈ secondNames, pair.2 = absent.name →
          pair.1 ∈ ["none", "eiz", "riz"] := by
        decide
      exact ⟨spelling, hnone _ hpair rfl, hletters⟩
  · rintro ⟨spelling, hspelling, hletters⟩
    rw [List.mem_cons] at hspelling
    rcases hspelling with rfl | hsecond
    · have hnone : SameLetters "none" absent.name := by decide
      exact .own (hletters.trans hnone)
    · have hpairs : ∀ spelling ∈ ["eiz", "riz"], (spelling, absent.name) ∈ secondNames := by decide
      exact .second spelling (hpairs _ hsecond) hletters

/-- The spellings of any other register, with its second names written out. -/
theorem isSpelled_iff_of_ne_absent (hname : register.name ≠ absent.name) :
    register.IsSpelled name ↔
      SameLetters name register.name
      ∨ (∃ place : Nat, register.name = "ST" ++ place.repr
          ∧ SameLetters name ("st(" ++ place.repr ++ ")"))
      ∨ ∃ pair ∈ [("fpcw", "X87CONTROL"), ("fpsw", "X87STATUS"), ("fptag", "X87TAG")],
          register.name = pair.2 ∧ SameLetters name pair.1 := by
  constructor
  · rintro (hown | ⟨place, hplace, hletters⟩ | ⟨spelling, hpair, hletters⟩)
    · exact .inl hown
    · exact .inr (.inl ⟨place, hplace, hletters⟩)
    · have hothers : ∀ pair ∈ secondNames, pair.2 ≠ absent.name →
          pair ∈ [("fpcw", "X87CONTROL"), ("fpsw", "X87STATUS"), ("fptag", "X87TAG")] := by
        decide
      exact .inr (.inr ⟨_, hothers _ hpair hname, rfl, hletters⟩)
  · rintro (hown | ⟨place, hplace, hletters⟩ | ⟨⟨spelling, target⟩, hpair, hregister, hletters⟩)
    · exact .own hown
    · exact .place place hplace hletters
    · have hlisted : ∀ pair ∈ [("fpcw", "X87CONTROL"), ("fpsw", "X87STATUS"), ("fptag", "X87TAG")],
          pair ∈ secondNames := by
        decide
      refine .second spelling ?_ hletters
      rw [hregister]
      exact hlisted _ hpair

end

end Register

namespace RegisterLookup

open Register

variable {name : String}

theorem ofSpelling_cases (hname : name ≠ "") :
    (∃ id, idOfAnyCase? (lookedUp name) = some id ∧ ofSpelling (some name) = .found id)
      ∨ idOfAnyCase? (lookedUp name) = none
        ∧ ofSpelling (some name) = .unknown (lookedUp name) := by
  have hgiven : (some name).filter (· ≠ "") = some name :=
    Option.filter_some_pos (by simpa using hname)
  rw [ofSpelling, hgiven]
  rcases hlooked : idOfAnyCase? (lookedUp name) with - | id <;> rw [lookedUp] at hlooked
  · exact .inr ⟨rfl, by simp only [hlooked, lookedUp]⟩
  · exact .inl ⟨id, rfl, by simp only [hlooked]⟩

/-- A name is found as the register that it is a spelling of. -/
theorem ofSpelling_eq_found_iff (h : IsAscii name) (hname : name ≠ "") {id : Nat} :
    ofSpelling (some name) = .found id
      ↔ ∃ register, table[id]? = some register ∧ register.IsSpelled name := by
  have hfound : idOfAnyCase? (lookedUp name) = some id
      ↔ ∃ register, table[id]? = some register ∧ register.IsSpelled name := by
    rw [idOfAnyCase?_eq_some_iff (isAscii_lookedUp h)]
    exact exists_congr fun register => and_congr_right fun hregister =>
      (isSpelled_iff h (List.mem_of_getElem? hregister)).symm
  rw [← hfound]
  rcases ofSpelling_cases hname with ⟨found, hlooked, hspelling⟩ | ⟨hlooked, hspelling⟩
  · rw [hspelling, hlooked, RegisterLookup.found.injEq, Option.some.injEq]
  · rw [hspelling, hlooked]
    exact ⟨nofun, nofun⟩

/-- The register that a name spells is the one that is gone on with. -/
theorem id_of_isSpelled (h : IsAscii name) {id : Nat} {register : Register}
    (hregister : table[id]? = some register) (hspelled : register.IsSpelled name) :
    (ofSpelling (some name)).id = id := by
  have hname : name ≠ "" := by
    rintro rfl
    exact not_isSpelled_empty (List.mem_of_getElem? hregister) hspelled
  rw [(ofSpelling_eq_found_iff h hname).mpr ⟨register, hregister, hspelled⟩]
  rfl

theorem id_eq_iff (h : IsAscii name) {id : Nat} {register : Register}
    (hregister : table[id]? = some register) (hid : (id : Int) ≠ absentId) :
    (ofSpelling (some name)).id = id ↔ register.IsSpelled name := by
  refine ⟨?_, id_of_isSpelled h hregister⟩
  intro hmapped
  by_cases hname : name = ""
  · subst hname
    exact absurd hmapped.symm hid
  · rcases ofSpelling_cases hname with ⟨found, -, hspelling⟩ | ⟨-, hspelling⟩
    · obtain ⟨spelled, hspelled, hletters⟩ := (ofSpelling_eq_found_iff h hname).mp hspelling
      rw [hspelling] at hmapped
      have hsame : found = id := Int.ofNat_inj.mp hmapped
      rw [hsame, hregister, Option.some.injEq] at hspelled
      rwa [hspelled]
    · rw [hspelling] at hmapped
      exact absurd hmapped.symm hid

theorem rows_eq (h : IsAscii name) :
    (ofSpelling (some name)).rows =
      if name ≠ "" ∧ (ofSpelling (some name)).id = absentId
          ∧ ∀ spelling ∈ ["none", "eiz", "riz"], ¬ SameLetters name spelling then
        [⟨.debug, .decoder, "Unknown capstone register name: " ++ lookedUp name⟩]
      else [] := by
  by_cases hname : name = ""
  · rw [if_neg fun hunknown => hunknown.1 hname, hname]
    rfl
  · rcases ofSpelling_cases hname with ⟨found, -, hspelling⟩ | ⟨-, hspelling⟩
    · rw [if_neg, hspelling]
      · rfl
      · rintro ⟨-, hid, hother⟩
        obtain ⟨register, hregister, hspelled⟩ := (ofSpelling_eq_found_iff h hname).mp hspelling
        rw [hspelling] at hid
        have hzero : found = 0 := Int.ofNat_inj.mp hid
        rw [hzero, getElem?_table_zero, Option.some.injEq] at hregister
        rw [← hregister, isSpelled_absent_iff] at hspelled
        obtain ⟨spelling, hmem, hletters⟩ := hspelled
        exact hother spelling hmem hletters
    · rw [if_pos, hspelling]
      · rfl
      · refine ⟨hname, by rw [hspelling]; rfl, ?_⟩
        intro spelling hmem hletters
        have hspelled := isSpelled_absent_iff.mpr ⟨spelling, hmem, hletters⟩
        have hfound := (ofSpelling_eq_found_iff h hname).mpr
          ⟨Register.absent, getElem?_table_zero, hspelled⟩
        rw [hfound] at hspelling
        cases hspelling

/-- **A register name is accepted in exactly its spellings.**  A name always comes to a register of
the table.  It comes to a given one, other than no register, just if it is in any case the name of
that register, its place of the stack in parentheses, or one of three second names.  A row is
written just about a name that comes to no register without being a spelling of that.  So each
register is reached from its name in any case. -/
theorem accepts_spellings (name : String) (h : IsAscii name) :
    (∃ register, ofId? (ofSpelling (some name)).id = some register)
    ∧ (∀ id register, ofId? id = some register → id ≠ absentId →
        ((ofSpelling (some name)).id = id ↔
          SameLetters name register.name
          ∨ (∃ place : Nat, register.name = "ST" ++ place.repr
              ∧ SameLetters name ("st(" ++ place.repr ++ ")"))
          ∨ ∃ pair ∈ [("fpcw", "X87CONTROL"), ("fpsw", "X87STATUS"), ("fptag", "X87TAG")],
              register.name = pair.2 ∧ SameLetters name pair.1))
    ∧ ((ofSpelling (some name)).rows =
        if name ≠ "" ∧ (ofSpelling (some name)).id = absentId
            ∧ ∀ spelling ∈ ["none", "eiz", "riz"], ¬ SameLetters name spelling then
          [⟨.debug, .decoder, "Unknown capstone register name: " ++ lookedUp name⟩]
        else [])
    ∧ ∀ id register, ofId? id = some register → SameLetters name register.name →
        (ofSpelling (some name)).id = id := by
  refine ⟨?_, ?_, rows_eq h, ?_⟩
  · obtain ⟨hnonneg, hbounded⟩ := isId_id (some name)
    have hlt : (ofSpelling (some name)).id.toNat < table.length := by omega
    rw [ofId?, if_pos hnonneg, List.getElem?_eq_getElem hlt]
    exact ⟨_, rfl⟩
  · intro id register hid hne
    obtain ⟨index, rfl, hregister⟩ := ofId?_eq_some_iff.mp hid
    rw [id_eq_iff h hregister hne]
    exact isSpelled_iff_of_ne_absent (name_ne_of_ne_absentId hregister hne)
  · intro id register hid hletters
    obtain ⟨index, rfl, hregister⟩ := ofId?_eq_some_iff.mp hid
    exact id_of_isSpelled h hregister (.own hletters)

theorem accepts_spellings_stack :
    IsAscii "St(3)" ∧ (ofSpelling (some "St(3)")).id = 72
    ∧ (ofSpelling (some "St(3)")).rows = [] := by
  have hascii : IsAscii "St(3)" := by decide
  obtain ⟨-, hmap, hrows, -⟩ := accepts_spellings "St(3)" hascii
  have hid : (ofSpelling (some "St(3)")).id = 72 :=
    (hmap 72 ⟨"ST3", "(float)s3"⟩ (by decide +kernel) (by decide)).mpr
      (.inr (.inl ⟨3, by decide, by decide⟩))
  refine ⟨hascii, hid, ?_⟩
  rw [hrows, if_neg]
  rintro ⟨-, hnone, -⟩
  rw [hid] at hnone
  exact absurd hnone (by decide)

end RegisterLookup

end X86Gloss
