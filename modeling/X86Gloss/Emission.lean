/-
X86Gloss/Emission.lean

What a writer would hand to a sink that never fills: a list of pieces of text, and perhaps a
fault that stops it after the last of them. Emissions compose like lists do, and nothing
follows a fault. How much of an emission fits into a given room is for the sink to say.
-/
namespace X86Gloss

/-- Pieces of text in order, and the fault that ends them, when there is one. -/
structure Emission (ε : Type) where
  pieces : List String
  fault : Option ε
deriving DecidableEq

namespace Emission

variable {ε : Type}

/-- Nothing at all. -/
def empty : Emission ε := ⟨[], none⟩

/-- One piece. -/
def piece (text : String) : Emission ε := ⟨[text], none⟩

/-- Several pieces. -/
def ofPieces (pieces : List String) : Emission ε := ⟨pieces, none⟩

/-- A fault before any piece. -/
def fail (fault : ε) : Emission ε := ⟨[], some fault⟩

/-- One emission after another, unless the first ends in a fault. -/
def append (first second : Emission ε) : Emission ε :=
  match first.fault with
  | none => ⟨first.pieces ++ second.pieces, second.fault⟩
  | some _ => first

instance : Append (Emission ε) := ⟨append⟩

/-- The whole text of the pieces. -/
def text (emission : Emission ε) : String := String.join emission.pieces

/-! ### Composition -/

theorem append_def (first second : Emission ε) : first ++ second = first.append second := rfl

@[simp] theorem empty_append (emission : Emission ε) : empty ++ emission = emission := by
  simp [append_def, append, empty]

@[simp] theorem append_empty (emission : Emission ε) : emission ++ empty = emission := by
  rcases emission with ⟨pieces, _ | fault⟩ <;> simp [append_def, append, empty]

@[simp] theorem fail_append (fault : ε) (emission : Emission ε) :
    fail fault ++ emission = fail fault := rfl

theorem append_assoc (first second third : Emission ε) :
    first ++ second ++ third = first ++ (second ++ third) := by
  rcases first with ⟨pieces, _ | fault⟩
  · rcases second with ⟨pieces', _ | fault'⟩ <;> simp [append_def, append]
  · simp [append_def, append]

/-! ### Faults and texts -/

@[simp] theorem fault_empty : (empty : Emission ε).fault = none := rfl

@[simp] theorem fault_piece (text : String) : (piece text : Emission ε).fault = none := rfl

@[simp] theorem fault_ofPieces (pieces : List String) :
    (ofPieces pieces : Emission ε).fault = none := rfl

@[simp] theorem fault_fail (fault : ε) : (fail fault).fault = some fault := rfl

/-- The first fault counts. -/
@[simp] theorem fault_append (first second : Emission ε) :
    (first ++ second).fault = first.fault.or second.fault := by
  rcases first with ⟨pieces, _ | fault⟩ <;> rfl

@[simp] theorem text_empty : (empty : Emission ε).text = "" := rfl

@[simp] theorem text_piece (text : String) : (piece text : Emission ε).text = text := by
  simp [Emission.text, piece]

@[simp] theorem text_ofPieces (pieces : List String) :
    (ofPieces pieces : Emission ε).text = String.join pieces := rfl

@[simp] theorem text_fail (fault : ε) : (fail fault).text = "" := rfl

/-- Texts are joined unless a fault stands between them. -/
theorem text_append {first : Emission ε} (h : first.fault = none) (second : Emission ε) :
    (first ++ second).text = first.text ++ second.text := by
  rcases first with ⟨pieces, _ | fault⟩
  · simp [append_def, append, text, String.join_append]
  · cases h

@[simp] theorem text_piece_append (text : String) (emission : Emission ε) :
    (piece text ++ emission).text = text ++ emission.text := by
  rw [text_append (fault_piece text), text_piece]

/-- Behind a fault nothing is added. -/
theorem text_append_of_fault {first : Emission ε} {fault : ε} (h : first.fault = some fault)
    (second : Emission ε) : (first ++ second).text = first.text := by
  rcases first with ⟨pieces, _ | fault⟩
  · cases h
  · rfl

end Emission

end X86Gloss
