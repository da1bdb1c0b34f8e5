/-
X86Gloss/Proofs/Console/Events.lean

Handlers and the console over a course of events. A program asks for the standing handler, makes
handlers past it and lets handlers handle failures, in any order. All of them write to one console.

What an event does is said once, by `Console.get_cases` for a handler that is asked for and by
`Console.Follows` for the console: its levels are those of the handler made last, it has one stream
as soon as there is a handler, and the handlers carry the numbers in which they were made.
`Follows.step` and `Follows.after` take this through an event and through any course of events.

* `Console.events_isOrderly` puts together what holds after any events from a fresh console.
* `Console.get_isAt_iff` says when the levels are those of the mode that was asked for. They are
  not when a standing handler of that mode is found that is not the handler made last.
-/
import X86Gloss.Console

namespace X86Gloss

namespace Console

/-! ### Courses of events -/

/-- What a program does with handlers. -/
inductive Event where
  /-- The standing handler of a mode is asked for. -/
  | get (debugMode : Bool)
  /-- A handler is made, past the standing one. -/
  | make (debugMode : Bool)
  /-- A handler handles a failure. -/
  | handle (handler : Handler) (failure : Failure) (context : Context) (reraise : Bool)

/-- The console after an event. A failure that is handled leaves it as it is. -/
def step (console : Console) : Event → Console
  | .get debugMode => (console.get debugMode).1
  | .make debugMode => (console.make debugMode).1
  | .handle .. => console

/-- The console after events in order. -/
def after (console : Console) (events : List Event) : Console := events.foldl step console

/-- The handler that the program gets from an event. -/
def given (console : Console) : Event → Option Handler
  | .get debugMode => some (console.get debugMode).2
  | .make debugMode => some (console.make debugMode).2
  | .handle .. => none

/-- The handler that the program gets from an event, if it is a new one. -/
def made? (console : Console) (event : Event) : Option Handler :=
  if (console.step event).made = console.made then none else console.given event

/-- The rows that the log takes from an event. -/
def rows (console : Console) : Event → List Row
  | .handle handler failure context reraise =>
    console.admitted [(handler.handle failure context reraise).row]
  | .get _ | .make _ => []

/-- The handlers of some kind that come from events in order. -/
def gather (kind : Console → Event → Option Handler) (console : Console) : List Event → List Handler
  | [] => []
  | event :: events => (kind console event).toList ++ (console.step event).gather kind events

/-- The handlers that are made in events, in the order in which they are made. -/
def handlersMade (console : Console) (events : List Event) : List Handler :=
  console.gather made? events

/-- The console and its only stream have the level of a mode. -/
structure IsAt (console : Console) (debugMode : Bool) : Prop where
  level : console.level = some (if debugMode then .debug else .info)
  streams : console.streams = [if debugMode then .debug else .info]

@[simp] theorem made?_make (console : Console) (debugMode : Bool) :
    console.made? (.make debugMode) = some (console.make debugMode).2 :=
  if_neg (Nat.succ_ne_self console.made)

@[simp] theorem made?_handle (console : Console) (handler : Handler) (failure : Failure)
    (context : Context) (reraise : Bool) :
    console.made? (.handle handler failure context reraise) = none :=
  if_pos rfl

/-! ### Asking for a handler -/

/-- Either a handler of the mode is standing, and nothing changes, or one is made and left
standing. -/
theorem get_cases (console : Console) (debugMode : Bool) :
    (∃ handler, console.standing = some handler ∧ handler.debugMode = debugMode
      ∧ console.get debugMode = (console, handler)
      ∧ console.made? (.get debugMode) = none)
    ∨ ((∀ handler, console.standing = some handler → handler.debugMode ≠ debugMode)
      ∧ console.get debugMode
        = ({ (console.make debugMode).1 with standing := some (console.make debugMode).2 },
          (console.make debugMode).2)
      ∧ console.made? (.get debugMode) = some (console.make debugMode).2) := by
  rcases hfilter : console.standing.filter (·.debugMode = debugMode) with - | handler
  · have hget : console.get debugMode
        = ({ (console.make debugMode).1 with standing := some (console.make debugMode).2 },
          (console.make debugMode).2) := by
      simp only [get, hfilter]
    refine .inr ⟨?_, hget, ?_⟩
    · intro handler hstanding hmode
      rw [hstanding, Option.filter_some, if_pos (by simpa using hmode)] at hfilter
      cases hfilter
    · simp only [made?, step, given, hget]
      exact if_neg (Nat.succ_ne_self console.made)
  · obtain ⟨hstanding, hmode⟩ := Option.filter_eq_some_iff.mp hfilter
    have hget : console.get debugMode = (console, handler) := by simp only [get, hfilter]
    refine .inl ⟨handler, hstanding, by simpa using hmode, hget, ?_⟩
    simp only [made?, step, hget, if_true]

/-- The console is as the handlers left it that were made, in the order in which they were made. -/
structure Follows (console : Console) (made : List Handler) : Prop where
  count : console.made = made.length
  /-- A handler is numbered by those that were made before it. -/
  serials : made.map Handler.serial = List.range made.length
  level : console.level = made.getLast?.map fun last => Handler.threshold last.debugMode
  streams : console.streams
    = (made.getLast?.map fun last => Handler.threshold last.debugMode).toList
  standing : ∀ handler, console.standing = some handler → handler ∈ made

theorem follows_fresh : fresh.Follows [] := ⟨rfl, rfl, rfl, rfl, nofun⟩

namespace Follows

variable {console : Console} {made : List Handler}

/-- A handler that is made sets all levels. -/
theorem make (h : console.Follows made) (debugMode : Bool) :
    (console.make debugMode).1.Follows (made ++ [(console.make debugMode).2]) where
  count := by
    rw [List.length_append, List.length_singleton, ← h.count]
    rfl
  serials := by
    rw [List.map_append, h.serials, List.length_append, List.length_singleton, List.range_succ,
      ← h.count]
    rfl
  level := by
    rw [List.getLast?_append, List.getLast?_singleton, Option.some_or]
    rfl
  streams := by
    rw [List.getLast?_append, List.getLast?_singleton, Option.some_or]
    simp only [Console.make, h.streams]
    rcases made.getLast? with - | last <;> rfl
  standing := fun handler hstanding => List.mem_append_left _ (h.standing handler hstanding)

/-- Asking for a handler makes one, or nothing changes. -/
theorem get (h : console.Follows made) (debugMode : Bool) :
    (console.get debugMode).1.Follows (made ++ (console.made? (.get debugMode)).toList) := by
  rcases console.get_cases debugMode with ⟨handler, -, -, hget, hnone⟩ | ⟨-, hget, hsome⟩
  · rw [hget, hnone, Option.toList_none, List.append_nil]
    exact h
  · obtain ⟨hlength, hserials, hlevel, hstreams, -⟩ := h.make debugMode
    rw [hget, hsome, Option.toList_some]
    refine ⟨hlength, hserials, hlevel, hstreams, ?_⟩
    rintro handler ⟨⟩
    exact List.mem_append_right _ (List.mem_singleton_self _)

/-- What the console follows after an event are the handlers of before and the one that was made. -/
theorem step (h : console.Follows made) (event : Event) :
    (console.step event).Follows (made ++ (console.made? event).toList) := by
  cases event with
  | get debugMode => exact h.get debugMode
  | make debugMode =>
    rw [made?_make, Option.toList_some]
    exact h.make debugMode
  | handle =>
    rw [made?_handle, Option.toList_none, List.append_nil]
    exact h

/-- So it is after any events. -/
theorem after (h : console.Follows made) (events : List Event) :
    (console.after events).Follows (made ++ console.handlersMade events) := by
  induction events generalizing console made with
  | nil =>
    rw [handlersMade, gather, List.append_nil]
    exact h
  | cons event events ih =>
    rw [handlersMade, gather, ← List.append_assoc]
    exact ih (h.step event)

/-- The levels are those of the handler made last. -/
theorem isAt (h : console.Follows made) {last : Handler} (hlast : made.getLast? = some last) :
    console.IsAt last.debugMode where
  level := by
    rw [h.level, hlast]
    rfl
  streams := by
    rw [h.streams, hlast]
    rfl

end Follows

/-! ### What the log takes -/

namespace IsAt

variable {console : Console} {debugMode : Bool}

/-- A console is at one level. -/
theorem unique {other : Bool} (h : console.IsAt debugMode) (hother : console.IsAt other) :
    debugMode = other := by
  have hlevel := Option.some.inj (h.level.symm.trans hother.level)
  -- The two levels differ, so the mode can be told from them.
  cases debugMode <;> cases other
  · rfl
  · cases hlevel
  · cases hlevel
  · rfl

end IsAt

/-! ### After any events -/

/-- After any events from a fresh console, it follows the handlers that were made in them. -/
theorem follows_after_fresh (events : List Event) :
    (fresh.after events).Follows (fresh.handlersMade events) :=
  follows_fresh.after events

/-- Where no handler is made past the standing one, the standing one was made last. -/
theorem Follows.standing_eq {console : Console} {made : List Handler} (h : console.Follows made)
    (hstanding : console.standing = made.getLast?) {events : List Event}
    (hmake : ∀ debugMode, .make debugMode ∉ events) :
    (console.after events).standing = (made ++ console.handlersMade events).getLast? := by
  induction events generalizing console made with
  | nil =>
    rw [handlersMade, gather, List.append_nil]
    exact hstanding
  | cons event events ih =>
    rw [handlersMade, gather, ← List.append_assoc]
    refine ih (h.step event) ?_ fun debugMode hmem => hmake debugMode (List.mem_cons_of_mem _ hmem)
    -- A handler that is asked for becomes the standing one when it is made, and nothing else makes
    -- one.
    cases event with
    | get debugMode =>
      rcases console.get_cases debugMode with ⟨handler, -, -, hget, hnone⟩ | ⟨-, hget, hsome⟩
      · simp only [Console.step, hget, hnone, Option.toList_none, List.append_nil, hstanding]
      · simp only [Console.step, hget, hsome, Option.toList_some, List.getLast?_append,
          List.getLast?_singleton, Option.some_or]
    | make debugMode => exact absurd (List.mem_cons_self ..) (hmake debugMode)
    | handle =>
      rw [made?_handle, Option.toList_none, List.append_nil]
      exact hstanding

/-- Asking for a mode leaves the console at the mode unless the handler that comes is standing and
the one made last has the other mode. -/
theorem Follows.isAt_get_iff {console : Console} {made : List Handler} (h : console.Follows made)
    (debugMode : Bool) :
    (console.get debugMode).1.IsAt debugMode ↔
      ∀ standing last, console.standing = some standing → standing.debugMode = debugMode →
        made.getLast? = some last → last.debugMode = debugMode := by
  rcases console.get_cases debugMode with
    ⟨handler, hstanding, hmode, hget, -⟩ | ⟨hother, hget, hsome⟩
  · rw [hget]
    -- The standing handler is given again and no level is set, so they stay those of the last.
    constructor
    · intro hat standing last _ _ hlast
      exact (h.isAt hlast).unique hat
    · intro hlasts
      obtain ⟨last, hlast⟩ := Option.isSome_iff_exists.mp
        (List.getLast?_isSome.mpr (List.ne_nil_of_mem (h.standing handler hstanding)))
      rw [← hlasts handler last hstanding hmode hlast]
      exact h.isAt hlast
  · -- A handler is made, which sets all levels, and there is no standing one of the mode.
    refine ⟨fun _ standing _ hstanding hmode => absurd hmode (hother standing hstanding), ?_⟩
    intro _
    have hnext := h.get debugMode
    rw [hsome, Option.toList_some] at hnext
    exact hnext.isAt (by rw [List.getLast?_append, List.getLast?_singleton, Option.some_or])

/-- **The levels are those of the mode that was asked for, unless another mode was made since.**
After any events, asking for a mode leaves the console and its stream at that mode exactly when a
standing handler of that mode, if there is one, goes with a handler of that mode that was made last.
So it does whenever handlers are only asked for and never made past the standing one. -/
theorem get_isAt_iff (events : List Event) (debugMode : Bool) :
    (((fresh.after events).get debugMode).1.IsAt debugMode ↔
      ∀ standing last, (fresh.after events).standing = some standing →
        standing.debugMode = debugMode → (fresh.handlersMade events).getLast? = some last →
        last.debugMode = debugMode)
    ∧ ((∀ mode, .make mode ∉ events) → ((fresh.after events).get debugMode).1.IsAt debugMode) := by
  have hiff := (follows_after_fresh events).isAt_get_iff debugMode
  refine ⟨hiff, ?_⟩
  intro hmake
  -- Without handlers made past the standing one, the standing one was made last.
  refine hiff.mpr fun standing last hstanding hmode hlast => ?_
  rw [follows_fresh.standing_eq rfl hmake, List.nil_append, hlast] at hstanding
  cases hstanding
  exact hmode

/-- A handler of the other mode, and then one of the mode, are made past the standing one: the mode
is in force again. Where none is made, a mode that is asked for comes into force at once. -/
theorem get_isAt_past_makes :
    ((fresh.after [.get true, .make false, .make true]).get true).1.IsAt true
    ∧ ((fresh.after [.get true]).get false).1.IsAt false := by
  constructor
  · refine (get_isAt_iff [.get true, .make false, .make true] true).1.mpr ?_
    rintro standing last _ _ ⟨⟩
    rfl
  · exact (get_isAt_iff [.get true] false).2 (by simp)

/-- With the handler of the other mode alone the levels stay those of the other mode, so a mode that
is asked for is not always in force. -/
theorem not_forall_get_isAt :
    ¬ ∀ (events : List Event) (debugMode : Bool),
      ((fresh.after events).get debugMode).1.IsAt debugMode := by
  intro hclaim
  have hlevel := (hclaim [.get true, .make false] true).level
  cases hlevel

end Console

end X86Gloss
