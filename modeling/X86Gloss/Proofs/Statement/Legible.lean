/-
X86Gloss/Proofs/Statement/Legible.lean

Sentences that can be read in one way only. A sentence is legible if its words and its operands
look different: operands are operand texts, joints and names and conditions are of the form that
is asked for here. `Sentence.text_injective` says that the text of a legible sentence determines
it.

The argument is a lexical one. Sentences of different kinds are told apart by their beginning and
by their first mark (`Kind.ofText_text`). Sentences of one kind are taken apart at their marks, at
the parenthesis behind a name, and at the parenthesis and the blank behind a condition. Operands
hold no mark and begin like no function, so they are where they are expected to be.

A move between registers is told as an assignment with nothing of its own in it; it is not legible.
-/
import X86Gloss.Proofs.Operand.Lexis
import X86Gloss.Proofs.Statement.Sentence
import X86Gloss.Proofs.Text.Cuts

namespace X86Gloss

/-! ### Lists of operand texts -/

/-- A list of operand texts is empty only if there are none. -/
theorem eq_nil_of_intercalate_eq_empty {texts : List String}
    (h : ∀ text ∈ texts, IsOperandText text) (heq : ", ".intercalate texts = "") : texts = [] := by
  rcases texts with - | ⟨text, - | ⟨next, rest⟩⟩
  · rfl
  · rw [String.intercalate_singleton] at heq
    exact absurd heq (h text List.mem_cons_self).nonempty
  · simp at heq

/-- A text in a list with others shows the comma behind it. -/
theorem intercalate_ne_of_isUnmarked {text first second : String} {rest : List String}
    (h : IsUnmarked text) : text ≠ ", ".intercalate (first :: second :: rest) := by
  rintro rfl
  have hcomma := h ',' (by simp)
  cases hcomma

/-- Operand texts come back from the list that is made of them. -/
theorem intercalate_injective {texts texts' : List String} (h : ∀ text ∈ texts, IsOperandText text)
    (h' : ∀ text ∈ texts', IsOperandText text)
    (heq : ", ".intercalate texts = ", ".intercalate texts') : texts = texts' := by
  induction texts generalizing texts' with
  | nil => exact (eq_nil_of_intercalate_eq_empty h' heq.symm).symm
  | cons text rest ih =>
    rcases texts' with - | ⟨text', rest'⟩
    · exact eq_nil_of_intercalate_eq_empty h heq
    · obtain ⟨htext, hrest⟩ := List.forall_mem_cons.mp h
      obtain ⟨htext', hrest'⟩ := List.forall_mem_cons.mp h'
      -- A text is taken off both lists if both go on; a list that ends where the other goes on
      -- lacks a comma.
      rcases rest with - | ⟨next, rest⟩
      · rcases rest' with - | ⟨next', rest'⟩
        · simpa using heq
        · exact absurd heq (intercalate_ne_of_isUnmarked htext.unmarked)
      · rcases rest' with - | ⟨next', rest'⟩
        · exact absurd heq.symm (intercalate_ne_of_isUnmarked htext'.unmarked)
        · simp only [String.intercalate_cons_cons] at heq
          rw [← String.toList_inj] at heq
          simp only [String.toList_append, List.append_assoc] at heq
          obtain ⟨hfirst, -, hmore⟩ :=
            append_cons_inj_of_first htext.unmarked htext'.unmarked rfl rfl heq
          have hsources : ", ".intercalate (next :: rest) = ", ".intercalate (next' :: rest') := by
            rw [← String.toList_inj]
            exact List.cons_inj_right ' ' |>.mp hmore
          rw [String.toList_inj.mp hfirst, ih hrest hrest' hsources]

/-! ### Legible sentences -/

/-- What stands between the destination and the value of an assignment. -/
def joints : List String := ["", "-", "+", "&", "|"].map fun operator => " " ++ operator ++ "= "

/-- No closing parenthesis of the condition is followed by a blank. -/
def IsCondition (text : String) : Prop := ¬ [')', ' '] <:+: text.toList

instance (text : String) : Decidable (IsCondition text) :=
  decidableOfEncoding (fun chars => ¬ [')', ' '] <:+: chars) text

/-- The name can stand before the parenthesis that opens its arguments. -/
def IsName (text : String) : Prop := IsUnmarked text ∧ '(' ∉ text.toList

instance (text : String) : Decidable (IsName text) :=
  have : Decidable ('(' ∉ text.toList) := decidableOfEncoding ('(' ∉ ·) text
  inferInstanceAs (Decidable (_ ∧ _))

/-- The name can stand where an operand could: it begins like none. -/
def IsFunctionName (text : String) : Prop := IsName text ∧ "_".toList <+: text.toList

instance (text : String) : Decidable (IsFunctionName text) :=
  have : Decidable ("_".toList <+: text.toList) := decidableOfEncoding ("_".toList <+: ·) text
  inferInstanceAs (Decidable (_ ∧ _))

/-- The words and the operand texts of the expression can be told apart. -/
def Expression.IsLegible : Expression → Prop
  | .operand text | .address text => IsOperandText text
  | .load _ suffix sources => IsName suffix ∧ ∀ text ∈ sources, IsOperandText text
  | .function name sources => IsFunctionName name ∧ ∀ text ∈ sources, IsOperandText text
  | .moved _ => False

/-- The words and the operand texts of the sentence can be told apart. -/
def Sentence.IsLegible : Sentence → Prop
  | .assignment joint destination value =>
    joint ∈ joints ∧ IsOperandText destination ∧ value.IsLegible
  | .comparison _ first second => IsOperandText first ∧ IsOperandText second
  | .call target | .jump target => IsOperandText target
  | .branch condition _ target => IsCondition condition ∧ IsOperandText target
  | .store _ suffix target sources =>
    IsName suffix ∧ IsOperandText target ∧ ∀ text ∈ sources, IsOperandText text

/-! ### Kinds of sentences -/

/-- The kinds of sentences. -/
inductive Kind where
  | assignment
  | comparison
  | call
  | jump
  | branch
  | store

/-- The kind of a sentence. -/
def Sentence.kind : Sentence → Kind
  | .assignment .. => .assignment
  | .comparison .. => .comparison
  | .call _ => .call
  | .jump _ => .jump
  | .branch .. => .branch
  | .store .. => .store

/-- The kind of a text, by its beginning and its first mark. -/
def Kind.ofText (text : List Char) : Kind :=
  if "if".toList <+: text then .branch
  else
    match text.find? isMark with
    | some ',' => if text.head? = some 'c' then .comparison else .store
    | some ';' => if text.head? = some 'g' then .jump else .call
    | _ => .assignment

theorem find?_isMark_append {text : String} (h : IsUnmarked text) (rest : List Char) :
    (text.toList ++ rest).find? isMark = rest.find? isMark := by
  have hnone : text.toList.find? isMark = none := by
    rw [List.find?_eq_none]
    intro c hc
    rw [h c hc]
    exact Bool.false_ne_true
  rw [List.find?_append, hnone, Option.none_or]

theorem isName_append {first second : String} (hfirst : IsName first) (hsecond : IsName second) :
    IsName (first ++ second) := by
  refine ⟨isUnmarked_append.mpr ⟨hfirst.1, hsecond.1⟩, ?_⟩
  rw [String.toList_append, List.mem_append, not_or]
  exact ⟨hfirst.2, hsecond.2⟩

theorem isName_moveName {aligned : Bool} {suffix verb : String} (h : IsName suffix)
    (hverb : IsName verb) : IsName ((Rule.move aligned suffix).moveName verb) := by
  have hhead : IsName ("vector_" ++ (if aligned then "aligned" else "unaligned") ++ "_") := by
    cases aligned <;> decide
  exact isName_append (isName_append hhead hverb) h

/-- All names of vector moves begin alike. -/
theorem exists_toList_moveName (rule : Rule) (verb : String) :
    ∃ rest, (rule.moveName verb).toList = 'v' :: rest :=
  ⟨_, by simp only [Rule.moveName, String.append_assoc, String.toList_append]; rfl⟩

/-- The text of a legible sentence shows its kind. -/
theorem Kind.ofText_text {s : Sentence} (h : s.IsLegible) : Kind.ofText s.text.toList = s.kind := by
  cases s with
  | assignment joint destination value =>
    -- No mark stands before the operator, and no operand begins like a branch.
    obtain ⟨hjoint, hdestination, -⟩ := h
    have hlead := find?_isMark_append hdestination.unmarked
    have hbranch : ∀ rest, ¬ ['i', 'f'] <+: destination.toList ++ ' ' :: rest :=
      fun rest hprefix => hdestination.apart "if" (by decide)
        (isPrefix_of_isPrefix_append_cons (by decide) hprefix)
    simp only [joints, List.map_cons, List.map_nil, List.mem_cons, List.not_mem_nil,
      or_false] at hjoint
    rcases hjoint with rfl | rfl | rfl | rfl | rfl <;>
      simp [Kind.ofText, Sentence.text, Sentence.kind, hlead, hbranch, isMark]
  | comparison note first second =>
    have hlead := find?_isMark_append h.1.unmarked
    simp [Kind.ofText, Sentence.text, Sentence.kind, hlead, isMark]
  | call target =>
    have hlead := find?_isMark_append h.unmarked
    simp [Kind.ofText, Sentence.text, Sentence.kind, hlead, isMark]
  | jump target =>
    have hlead := find?_isMark_append h.unmarked
    simp [Kind.ofText, Sentence.text, Sentence.kind, hlead, isMark]
  | branch condition note target =>
    simp [Kind.ofText, Sentence.text, Sentence.kind]
  | store aligned suffix target sources =>
    -- Its first mark is the comma, as in a comparison; the two begin with different letters.
    have hname : IsName ((Rule.move aligned suffix).moveName "store") :=
      isName_moveName h.1 (by decide)
    have hlead := find?_isMark_append hname.1
    have htarget := find?_isMark_append h.2.1.unmarked
    obtain ⟨rest, hhead⟩ := exists_toList_moveName (.move aligned suffix) "store"
    simp only [Kind.ofText, Sentence.text, Sentence.kind, String.toList_append, List.append_assoc,
      hlead]
    simp [hhead, htarget, isMark]

/-! ### Taking sentences apart -/

/-- Destination and joint come back from what they begin. -/
theorem joint_injective {joint joint' destination destination' rest rest' : String}
    (hjoint : joint ∈ joints) (hjoint' : joint' ∈ joints) (h : IsUnmarked destination)
    (h' : IsUnmarked destination')
    (heq : destination ++ joint ++ rest = destination' ++ joint' ++ rest') :
    joint = joint' ∧ destination = destination' ∧ rest = rest' := by
  have hplain : ∀ operator ∈ ["", "-", "+", "&", "|"],
      ∀ c ∈ operator.toList, (c == '=') = false ∧ (c == ' ') = false := by simp
  -- The first equality sign is that of the joint, and the last blank before it is the other end.
  have hlead : ∀ {destination operator : String}, IsUnmarked destination →
      operator ∈ ["", "-", "+", "&", "|"] →
      ∀ c ∈ destination.toList ++ ' ' :: operator.toList, (c == '=') = false := by
    intro destination operator hdestination hoperator c hc
    rw [beq_eq_false_iff_ne]
    rintro rfl
    rw [List.mem_append, List.mem_cons] at hc
    rcases hc with hc | hc | hc
    · cases hdestination _ hc
    · cases hc
    · cases (hplain operator hoperator _ hc).1
  obtain ⟨operator, hoperator, rfl⟩ := List.mem_map.mp hjoint
  obtain ⟨operator', hoperator', rfl⟩ := List.mem_map.mp hjoint'
  have hsplit : ∀ destination operator rest : String,
      (destination ++ (" " ++ operator ++ "= ") ++ rest).toList
        = (destination.toList ++ ' ' :: operator.toList) ++ '=' :: ' ' :: rest.toList := by
    simp
  rw [← String.toList_inj, hsplit, hsplit] at heq
  obtain ⟨hfirst, -, hrest⟩ := append_cons_inj_of_first (hlead h hoperator) (hlead h' hoperator')
    (beq_self_eq_true '=') (beq_self_eq_true '=') heq
  obtain ⟨hdestination, -, hoperators⟩ := append_cons_inj_of_last
    (fun c hc => (hplain operator hoperator c hc).2)
    (fun c hc => (hplain operator' hoperator' c hc).2)
    (beq_self_eq_true ' ') (beq_self_eq_true ' ') hfirst
  rw [List.cons.injEq, String.toList_inj] at hrest
  rw [String.toList_inj] at hdestination hoperators
  exact ⟨by rw [hoperators], hdestination, hrest.2⟩

/-- Text without marks comes back from what a mark begins. -/
theorem unmarked_injective {first first' joint rest rest' : String} {mark : Char}
    {tail : List Char} (h : IsUnmarked first) (h' : IsUnmarked first')
    (heq : first ++ (joint ++ rest) = first' ++ (joint ++ rest'))
    (hjoint : joint.toList = mark :: tail) (hmark : isMark mark = true) :
    first = first' ∧ rest = rest' := by
  rw [← String.toList_inj] at heq
  simp only [String.toList_append, hjoint, List.cons_append] at heq
  obtain ⟨hfirst, -, hrest⟩ := append_cons_inj_of_first h h' hmark hmark heq
  exact ⟨String.toList_inj.mp hfirst, String.toList_inj.mp (List.append_cancel_left hrest)⟩

/-- A name comes back from what its parenthesis begins. -/
theorem name_injective {name name' rest rest' : String} (h : IsName name) (h' : IsName name')
    (heq : name ++ ("(" ++ rest) = name' ++ ("(" ++ rest')) : name = name' ∧ rest = rest' := by
  have hplain : ∀ {name : String}, IsName name → ∀ c ∈ name.toList, (c == '(') = false := by
    intro name hname c hc
    rw [beq_eq_false_iff_ne]
    rintro rfl
    exact hname.2 hc
  rw [← String.toList_inj] at heq
  simp only [String.toList_append] at heq
  obtain ⟨hname, -, hrest⟩ := append_cons_inj_of_first (hplain h) (hplain h')
    (beq_self_eq_true '(') (beq_self_eq_true '(') heq
  exact ⟨String.toList_inj.mp hname, String.toList_inj.mp hrest⟩

/-- The name of a vector move shows what is aligned and what is moved. -/
theorem moveName_injective {aligned aligned' : Bool} {suffix suffix' verb : String}
    (heq : (Rule.move aligned suffix).moveName verb = (Rule.move aligned' suffix').moveName verb) :
    aligned = aligned' ∧ suffix = suffix' := by
  rw [← String.toList_inj] at heq ⊢
  cases aligned <;> cases aligned' <;> simp [Rule.move, Rule.moveName] at heq ⊢ <;> exact heq

/-- A condition comes back from what its parenthesis begins. -/
theorem condition_injective {condition condition' rest rest' : String} (h : IsCondition condition)
    (h' : IsCondition condition')
    (heq : condition ++ (") goto " ++ rest) = condition' ++ (") goto " ++ rest')) :
    condition = condition' ∧ rest = rest' := by
  rw [← String.toList_inj] at heq
  simp only [String.toList_append] at heq
  obtain ⟨hcondition, hrest⟩ := append_pair_inj_of_first (by decide) h h' heq
  have hcancel : rest.toList = rest'.toList := by simpa using hrest
  exact ⟨String.toList_inj.mp hcondition, String.toList_inj.mp hcancel⟩

/-- The note behind a branch comes back from its text. -/
theorem note_injective {note note' : Option String}
    (heq : note.elim "" (" // " ++ ·) = note'.elim "" (" // " ++ ·)) : note = note' := by
  rw [← String.toList_inj] at heq
  rcases note with - | note
  · rcases note' with - | note'
    · rfl
    · simp at heq
  · rcases note' with - | note'
    · simp at heq
    · simpa [String.toList_inj] using heq

/-! ### Expressions -/

namespace Expression

/-- How an expression begins that is no operand. -/
def head : Expression → Option Char
  | .operand _ | .moved _ => none
  | .address _ => some '&'
  | .load .. => some 'v'
  | .function .. => some '_'

/-- The text of a legible expression shows how it begins. -/
theorem filter_head?_text {value : Expression} (h : value.IsLegible) :
    value.text.toList.head?.filter (['&', 'v', '_'].contains ·) = value.head := by
  cases value with
  | operand text =>
    obtain ⟨-, hunmarked, hapart⟩ := h
    rcases htext : text.toList with - | ⟨c, rest⟩
    · simp [Expression.text, head, htext]
    · -- An operand begins like none of the other expressions: not with a mark, nor with a word that
      -- operands are apart from.
      have hmark : c ≠ '&' := by
        rintro rfl
        cases hunmarked '&' (by rw [htext]; exact List.mem_cons_self)
      have hmove : c ≠ 'v' := by
        rintro rfl
        exact hapart "v" (by decide) (by simp [htext])
      have hfunction : c ≠ '_' := by
        rintro rfl
        exact hapart "_" (by decide) (by simp [htext])
      simp [Expression.text, head, htext, hmark, hmove, hfunction]
  | address text => simp [Expression.text, head]
  | load aligned suffix sources =>
    obtain ⟨rest, hhead⟩ := exists_toList_moveName (.move aligned suffix) "load"
    simp [Expression.text, head, hhead]
  | function name sources =>
    obtain ⟨rest, hrest⟩ := h.1.2
    simp [Expression.text, head, ← hrest]
  | moved sources => exact h.elim

/-- Legible expressions come back from their texts. -/
theorem text_injective {value value' : Expression} (h : value.IsLegible) (h' : value'.IsLegible)
    (heq : value.text = value'.text) : value = value' := by
  -- Expressions that begin differently cannot have the same text, which leaves the pairs of one
  -- form.
  have hhead : value.head = value'.head := by
    rw [← filter_head?_text h, ← filter_head?_text h', heq]
  cases value with
  | operand text =>
    cases value' with
    | operand text' => exact congrArg operand heq
    | moved sources' => exact h'.elim
    | _ => cases hhead
  | address text =>
    cases value' with
    | address text' =>
      simp only [Expression.text, String.append_right_inj] at heq
      rw [heq]
    | _ => cases hhead
  | load aligned suffix sources =>
    cases value' with
    | load aligned' suffix' sources' =>
      simp only [Expression.text, String.append_assoc] at heq
      obtain ⟨hname, hsources⟩ := name_injective (isName_moveName h.1 (by decide))
        (isName_moveName h'.1 (by decide)) heq
      obtain ⟨haligned, hsuffix⟩ := moveName_injective hname
      rw [haligned, hsuffix,
        intercalate_injective h.2 h'.2 ((String.append_left_inj ")").mp hsources)]
    | _ => cases hhead
  | function name sources =>
    cases value' with
    | function name' sources' =>
      simp only [Expression.text, String.append_assoc] at heq
      obtain ⟨hname, hsources⟩ := name_injective h.1.1 h'.1.1 heq
      rw [hname, intercalate_injective h.2 h'.2 ((String.append_left_inj ")").mp hsources)]
    | _ => cases hhead
  | moved sources => exact h.elim

end Expression

/-! ### Sentences -/

/-- **Legible sentences come back from their texts.** -/
theorem Sentence.text_injective {s s' : Sentence} (h : s.IsLegible) (h' : s'.IsLegible)
    (heq : s.text = s'.text) : s = s' := by
  -- The text shows the kind, which leaves the pairs of one kind.
  have hkind : s.kind = s'.kind := by rw [← Kind.ofText_text h, ← Kind.ofText_text h', heq]
  cases s with
  | assignment joint destination value =>
    cases s' with
    | assignment joint' destination' value' =>
      simp only [text, String.append_left_inj] at heq
      obtain ⟨hjoint, hdestination, hvalue⟩ :=
        joint_injective h.1 h'.1 h.2.1.unmarked h'.2.1.unmarked heq
      rw [hjoint, hdestination, Expression.text_injective h.2.2 h'.2.2 hvalue]
    | _ => cases hkind
  | comparison note first second =>
    cases s' with
    | comparison note' first' second' =>
      -- A parenthesis and a blank stand between the second operand and the mark behind it.
      have hclose : ∀ second note : String,
          second ++ (") // " ++ note) = second ++ ") " ++ ("// " ++ note) := fun second note => by
        rw [String.append_assoc]
        exact congrArg (second ++ ·) (String.append_assoc : ") " ++ "// " ++ note = _)
      simp only [text, String.append_assoc, String.append_right_inj] at heq
      obtain ⟨hfirst, hrest⟩ := unmarked_injective h.1.unmarked h'.1.unmarked heq rfl rfl
      rw [hclose, hclose] at hrest
      obtain ⟨hsecond, hnote⟩ := unmarked_injective
        (isUnmarked_append.mpr ⟨h.2.unmarked, by decide⟩)
        (isUnmarked_append.mpr ⟨h'.2.unmarked, by decide⟩) hrest rfl rfl
      rw [hfirst, (String.append_left_inj ") ").mp hsecond, hnote]
    | _ => cases hkind
  | call target =>
    cases s' with
    | call target' =>
      simp only [text, String.append_right_inj, String.append_left_inj] at heq
      rw [heq]
    | _ => cases hkind
  | jump target =>
    cases s' with
    | jump target' =>
      simp only [text, String.append_right_inj, String.append_left_inj] at heq
      rw [heq]
    | _ => cases hkind
  | branch condition note target =>
    cases s' with
    | branch condition' note' target' =>
      simp only [text, String.append_assoc, String.append_right_inj] at heq
      obtain ⟨hcondition, hrest⟩ := condition_injective h.1 h'.1 heq
      obtain ⟨htarget, hnote⟩ := unmarked_injective h.2.unmarked h'.2.unmarked hrest rfl rfl
      rw [hcondition, htarget, note_injective hnote]
    | _ => cases hkind
  | store aligned suffix target sources =>
    cases s' with
    | store aligned' suffix' target' sources' =>
      simp only [text, String.append_assoc] at heq
      obtain ⟨hname, hrest⟩ := name_injective (isName_moveName h.1 (by decide))
        (isName_moveName h'.1 (by decide)) heq
      obtain ⟨haligned, hsuffix⟩ := moveName_injective hname
      obtain ⟨htarget, hsources⟩ := unmarked_injective h.2.1.unmarked h'.2.1.unmarked hrest rfl rfl
      rw [haligned, hsuffix, htarget,
        intercalate_injective h.2.2 h'.2.2 ((String.append_left_inj ");").mp hsources)]
    | _ => cases hkind

end X86Gloss
