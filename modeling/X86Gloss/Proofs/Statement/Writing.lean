/-
X86Gloss/Proofs/Statement/Writing.lean

Writing a statement into a sink does what emitting it does: `Rule.write` runs through the same
pieces as `Rule.statement` lists, in the same order, and meets the same fault behind them.

`Writes writing emission` says so of one sink after another. It is proved for the single steps
(`writes_put`, `writes_stop`) and composes along `++` (`Writes.bind`); after that the proofs
follow the definitions, part by part and template by template, and no sink is mentioned again.
The list of sources is the only loop. It is written by index, with a comma before each operand
but the first, and listed by operand, with a comma after each but the last.
-/
import X86Gloss.Statement.Writing

namespace X86Gloss

open Writing

variable {ε : Type}

namespace Writing

/-! ### Writings and emissions -/

/-- The writing does to every sink what the emission does. -/
def Writes (writing : Writing ε Unit) (emission : Emission ε) : Prop :=
  ∀ sink, writing.into sink = sink.emit emission

theorem into_bind (first second : Writing ε Unit) (sink : Sink) :
    (first >>= fun _ => second).into sink =
      match first.into sink with
      | (next, none) => second.into next
      | (final, some halt) => (final, some halt) := by
  simp only [into, ExceptT.run_bind, StateT.run_bind]
  rcases first.run.run sink with ⟨halt | ⟨⟨⟩⟩, final⟩ <;> rfl

theorem writes_pure : Writes (pure () : Writing ε Unit) .empty :=
  fun _ => rfl

theorem writes_put (text : String) : Writes (put text : Writing ε Unit) (.piece text) := by
  intro sink
  simp only [into, run_put, Sink.emit, Emission.piece, Sink.write]
  rcases sink.append text with refusal | next <;> rfl

theorem writes_stop (fault : ε) : Writes (stop fault) (.fail fault) :=
  fun _ => rfl

/-- A writing after another writes their emissions one after the other. -/
theorem Writes.bind {first second : Writing ε Unit} {emission emission' : Emission ε}
    (hfirst : Writes first emission) (hsecond : Writes second emission') :
    Writes (first >>= fun _ => second) (emission ++ emission') := by
  intro sink
  rw [into_bind, hfirst sink, Sink.emit_append]
  rcases sink.emit emission with ⟨next, - | halt⟩
  · exact hsecond next
  · rfl

/-- Nothing follows a fault. -/
theorem writes_stop_bind {α : Type} (fault : ε) (next : α → Writing ε Unit) :
    Writes (stop fault >>= next) (.fail fault) :=
  fun _ => rfl

end Writing

/-! ### Operands -/

theorem Numeral.writes_writeSigned (value : Int) :
    Writes (writeSigned value) (.ofPieces (signedPieces value)) := by
  unfold writeSigned signedPieces
  -- The sign is a piece of its own.
  by_cases hneg : signedWord value < 0
  · simp only [if_pos hneg]
    exact (writes_put "-").bind (writes_put _)
  · simp only [if_neg hneg]
    exact writes_put _

theorem Register.writes_write (id : Int) : Writes (write id) (emission id) := by
  unfold write emission
  rcases ofId? id with - | register
  · exact writes_stop _
  · exact writes_put _

namespace Memory

theorem writes_writeIndex (memory : Memory) : Writes memory.writeIndex memory.scaledIndex := by
  unfold writeIndex scaledIndex
  by_cases hscale : memory.scale = 1
  · simp only [if_pos hscale]
    exact Register.writes_write _
  · simp only [if_neg hscale, Emission.append_assoc]
    exact (writes_put "(").bind ((Register.writes_write _).bind
      ((writes_put " * ").bind ((writes_put _).bind (writes_put ")"))))

theorem writes_writeOffset (memory : Memory) : Writes memory.writeOffset memory.offset := by
  unfold writeOffset offset
  rcases memory.displacement with - | displacement
  · by_cases hindex : (memory.kind = .direct && memory.isIndexed) = true
    · simp only [if_pos hindex]
      exact (writes_put " + ").bind memory.writes_writeIndex
    · simp only [if_neg hindex]
      exact writes_pure
  · exact (writes_put " + ").bind (Numeral.writes_writeSigned displacement)

/-- A memory operand behind its opening, which depends on the kind alone. -/
theorem writes_enclosed (memory : Memory) (opening : String) :
    Writes
      (do
        put opening
        Register.write memory.segment
        put ": "
        Register.write memory.base
        memory.writeOffset
        put ")")
      (memory.enclosed opening) := by
  simp only [enclosed, Emission.append_assoc]
  exact (writes_put opening).bind ((Register.writes_write _).bind ((writes_put ": ").bind
    ((Register.writes_write _).bind (memory.writes_writeOffset.bind (writes_put ")")))))

theorem writes_write (memory : Memory) : Writes memory.write memory.emission := by
  unfold write writeOpening emission
  rcases memory.kind with - | - | - | spelling
  · exact memory.writes_enclosed "*("
  · exact memory.writes_enclosed "*("
  · exact memory.writes_enclosed "("
  · exact writes_stop_bind _ _

end Memory

theorem Immediate.writes_write (address : Int) (immediate : Immediate) :
    Writes (immediate.write address) (immediate.emission address) := by
  unfold write emission
  split
  · exact writes_put _
  · split
    · exact Numeral.writes_writeSigned _
    · exact writes_put _

theorem Operand.writes_write (address : Int) (operand : Operand) :
    Writes (operand.write address) (operand.emission address) := by
  obtain ⟨kind, register, memory, immediate, pointer⟩ := operand
  cases kind with
  | register => exact Register.writes_write register
  | memory =>
    rcases memory with - | memory
    · exact writes_stop _
    · exact memory.writes_write
  | immediate =>
    rcases immediate with - | immediate
    · exact writes_stop _
    · exact immediate.writes_write address
  | pointer => exact writes_stop _

/-! ### Operands of a site -/

namespace Site

variable (site : Site)

theorem writes_write (index : Nat) : Writes (site.write index) (site.operand index) := by
  unfold write operand fetch
  rcases site.operands[index]? with - | operand
  · exact writes_stop_bind _ _
  · simp only [pure_bind]
    exact operand.writes_write site.address

theorem listed_zero (operands : List Operand) (index : Nat) :
    site.listed operands index 0 = .empty := by
  cases operands <;> rfl

/-- A list that starts at an index is the operand there and, behind a comma, the rest. -/
theorem listed_drop_succ (index count : Nat) :
    site.listed (site.operands.drop index) index (count + 1) =
      site.operand index ++
        if count = 0 then .empty
        else .piece ", " ++ site.listed (site.operands.drop (index + 1)) (index + 1) count := by
  rcases Nat.lt_or_ge index site.operands.length with hlt | hge
  · rw [List.drop_eq_getElem_cons hlt, operand, List.getElem?_eq_getElem hlt]
    rfl
  · rw [List.drop_eq_nil_of_le hge, operand, List.getElem?_eq_none hge]
    rfl

/-- Behind the first operand, the loop writes a comma before each of those that are left. -/
theorem writes_writeFrom {first index : Nat} (h : first < index) (count : Nat) :
    Writes (site.writeFrom first index count)
      (if count = 0 then .empty
        else .piece ", " ++ site.listed (site.operands.drop index) index count) := by
  induction count generalizing index with
  | zero => exact writes_pure
  | succ count ih =>
    simp only [writeFrom, if_pos h, if_neg (Nat.succ_ne_zero count), listed_drop_succ]
    exact (writes_put ", ").bind ((site.writes_write index).bind (ih (Nat.lt_succ_of_lt h)))

theorem writes_writeList (first : Nat) :
    Writes (site.writeList first)
      (site.listed (site.operands.drop first) first (site.instruction.visible - first).toNat) := by
  unfold writeList
  generalize (site.instruction.visible - first).toNat = count
  cases count with
  | zero =>
    rw [listed_zero]
    exact writes_pure
  | succ count =>
    simp only [writeFrom, if_neg (Nat.lt_irrefl first), listed_drop_succ]
    exact (site.writes_write first).bind (site.writes_writeFrom (Nat.lt_succ_self first) count)

theorem writes_sources : Writes (site.writeList 1) site.sources := site.writes_writeList 1

end Site

/-! ### Templates -/

namespace Rule

variable (rule : Rule) (site : Site)

/-- The form of a vector move hangs on its operands, so a missing one stops it before anything
is written. -/
theorem writes_writeVectorMove : Writes (rule.writeVectorMove site) (rule.vectorMove site) := by
  obtain ⟨instruction, operands, address⟩ := site
  rcases operands with - | ⟨destination, rest⟩
  · exact writes_stop_bind _ _
  simp only [writeVectorMove, vectorMove, Site.fetch, List.getElem?_cons_zero,
    List.getElem?_cons_succ, pure_bind]
  by_cases hstore : destination.addressesMemory = true
  · simp only [if_pos hstore, Emission.append_assoc]
    exact (writes_put _).bind ((Site.writes_write _ 0).bind ((writes_put ", ").bind
      ((Site.writes_sources _).bind (writes_put ")"))))
  simp only [if_neg hstore]
  rcases rest with - | ⟨source, rest⟩
  · exact writes_stop_bind _ _
  simp only [List.getElem?_cons_zero, pure_bind]
  by_cases hload : source.addressesMemory = true
  · simp only [if_pos hload, Emission.append_assoc]
    exact (Site.writes_write _ 0).bind ((writes_put _).bind
      ((Site.writes_sources _).bind (writes_put ")")))
  · simp only [if_neg hload, Emission.append_assoc]
    exact (Site.writes_write _ 0).bind ((writes_put " = ").bind (Site.writes_sources _))

theorem writes_writeBody : Writes (rule.writeBody site) (rule.body site) := by
  unfold writeBody body
  cases rule.template with
  | assignment =>
    simp only [Emission.append_assoc]
    exact (site.writes_write 0).bind ((writes_put _).bind (site.writes_write 1))
  | comparison =>
    simp only [Emission.append_assoc]
    exact (writes_put "compare(").bind ((site.writes_write 0).bind ((writes_put ", ").bind
      ((site.writes_write 1).bind (writes_put _))))
  | call =>
    simp only [Emission.append_assoc]
    exact (writes_put "(").bind ((site.writes_write 0).bind (writes_put ")()"))
  | jump => exact (writes_put "goto ").bind (site.writes_write 0)
  | conditionalBranch =>
    simp only [Emission.append_assoc]
    refine (writes_put _).bind ((site.writes_write 0).bind ?_)
    rcases rule.comment with - | comment
    · exact writes_pure
    · exact writes_put _
  | vectorMove => exact rule.writes_writeVectorMove site
  | vectorFunction =>
    simp only [Emission.append_assoc]
    exact (site.writes_write 0).bind ((writes_put _).bind
      (site.writes_sources.bind (writes_put ")")))

/-- A rule writes the pieces of its statement one after the other, up to its fault. -/
theorem writes_write : Writes (rule.write site) (rule.statement site) := by
  unfold write statement
  refine (rule.writes_writeBody site).bind ?_
  by_cases hterminated : rule.terminated = true
  · simp only [if_pos hterminated]
    exact writes_put ";"
  · simp only [if_neg hterminated]
    exact writes_pure

end Rule

end X86Gloss
