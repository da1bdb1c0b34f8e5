/-
X86Gloss/Disassembly/Spelling.lean

The disassembler's spelling of mnemonics and registers. A mnemonic may come with words in
front of it (`rep`, `lock`, `bnd`), of which only the last word counts, and some condition
codes and moves have a second name. Registers come in lower case, the floating point stack
as `st(3)`, and a few registers under another name.
-/
import X86Gloss.Mnemonic
import X86Gloss.Register
import X86Gloss.Log

namespace X86Gloss

/-! ### Mnemonics -/

/-- Second names of mnemonics. -/
def Mnemonic.secondNames : List (String × String) := [
  ("je", "jz"), ("jne", "jnz"), ("jae", "jnb"), ("jnae", "jb"), ("jc", "jb"), ("jnc", "jnb"),
  ("ja", "jnbe"), ("jna", "jbe"), ("jge", "jnl"), ("jnge", "jl"), ("jg", "jnle"), ("jng", "jle"),
  ("jpe", "jp"), ("jpo", "jnp"), ("sal", "shl"), ("movabs", "mov"), ("retn", "ret")]

/-- A spelling after its alias, if it has one, was put in its place. -/
def resolveAlias (aliases : List (String × String)) (spelling : String) : String :=
  (aliases.lookup spelling).getD spelling

/-- An alias that is listed once gives way to what it stands for. -/
theorem resolveAlias_of_mem {aliases : List (String × String)} {spelling target : String}
    (hnodup : (aliases.map Prod.fst).Nodup) (h : (spelling, target) ∈ aliases) :
    resolveAlias aliases spelling = target := by
  unfold resolveAlias
  induction aliases with
  | nil => cases h
  | cons pair rest ih =>
    obtain ⟨name, image⟩ := pair
    rw [List.map_cons, List.nodup_cons] at hnodup
    rw [List.lookup_cons]
    rcases List.mem_cons.mp h with heq | hmem
    · obtain ⟨rfl, rfl⟩ := Prod.mk.inj heq
      rw [beq_self_eq_true]
      rfl
    · have hne : (spelling == name) = false := by
        rw [beq_eq_false_iff_ne]
        rintro rfl
        exact hnodup.1 (List.mem_map.mpr ⟨(spelling, target), hmem, rfl⟩)
      rw [hne]
      exact ih hnodup.2 hmem

/-- Any other spelling stays. -/
theorem resolveAlias_of_forall {aliases : List (String × String)} {spelling : String}
    (h : ∀ pair ∈ aliases, pair.1 ≠ spelling) : resolveAlias aliases spelling = spelling := by
  have hnone : aliases.lookup spelling = none := by
    rw [List.lookup_eq_none_iff]
    exact fun pair hpair => bne_iff_ne.mpr (h pair hpair).symm
  rw [resolveAlias, hnone, Option.getD_none]

/-- The mnemonic that the disassembler means. -/
def Mnemonic.ofSpelling (spelling : String) : Mnemonic :=
  let word := lastWord (lowerCase (trimBlanks spelling)).toList
  .ofText (resolveAlias Mnemonic.secondNames (String.ofList word))

/-! ### Registers -/

/-- Second names of registers. -/
def Register.secondNames : List (String × String) := [
  ("fpcw", "X87CONTROL"), ("fpsw", "X87STATUS"), ("fptag", "X87TAG"), ("eiz", "NONE"),
  ("riz", "NONE")]

/-- A name such as `st(3)` without its parentheses; other names are left alone. -/
def dropStackMarks (name : String) : String :=
  match name.toList with
  | 's' :: 't' :: '(' :: rest =>
    if rest.getLast? = some ')' then "st" ++ String.ofList rest.dropLast else name
  | _ => name

/-- What looking up a register name comes to. -/
inductive RegisterLookup where
  /-- There was no name. -/
  | absent
  /-- The name is that of a register. -/
  | found (id : Nat)
  /-- No register has the name, given here as it was last looked for. -/
  | unknown (name : String)
deriving DecidableEq

namespace RegisterLookup

/-- Looks up a register in the disassembler's spelling. -/
def ofSpelling (spelling : Option String) : RegisterLookup :=
  match spelling.filter (· ≠ "") with
  | none => .absent
  | some spelling =>
    let name := resolveAlias Register.secondNames (dropStackMarks (lowerCase spelling))
    match Register.idOfAnyCase? name with
    | some id => .found id
    | none => .unknown name

/-- The identifier to go on with: where there is no register, that of no register. -/
def id : RegisterLookup → Int
  | .found id => id
  | _ => Register.absentId

/-- The row about a name that is unknown. -/
def rows : RegisterLookup → List Row
  | .unknown name => [⟨.debug, .decoder, "Unknown capstone register name: " ++ name⟩]
  | _ => []

end RegisterLookup

end X86Gloss
