/-
X86Gloss/Proofs/Text/Cuts.lean

Lists that can be taken apart in one way only: at the first or the last element with some property,
or at the first place of two elements in a row. Texts are taken apart by their characters this way.
-/
import Mathlib.Data.List.Infix

namespace X86Gloss

variable {α : Type} {xs ys rest rest' : List α} {a b : α}

/-- A list is cut at its first element with a property in one way only. -/
theorem append_cons_inj_of_first {p : α → Bool} (hxs : ∀ x ∈ xs, p x = false)
    (hys : ∀ y ∈ ys, p y = false) (ha : p a = true) (hb : p b = true)
    (h : xs ++ a :: rest = ys ++ b :: rest') : xs = ys ∧ a = b ∧ rest = rest' := by
  induction xs generalizing ys with
  | nil =>
    -- If one of the lists ended earlier, its element with the property would stand among those
    -- without it.
    rcases ys with - | ⟨y, ys⟩
    · simpa using h
    · rw [List.nil_append, List.cons_append, List.cons.injEq] at h
      rw [h.1, hys y List.mem_cons_self] at ha
      cases ha
  | cons x xs ih =>
    rcases ys with - | ⟨y, ys⟩
    · rw [List.nil_append, List.cons_append, List.cons.injEq] at h
      rw [← h.1, hxs x List.mem_cons_self] at hb
      cases hb
    · rw [List.cons_append, List.cons_append, List.cons.injEq] at h
      obtain ⟨hxs', hab, hrest⟩ := ih (fun z hz => hxs z (List.mem_cons_of_mem x hz))
        (fun z hz => hys z (List.mem_cons_of_mem y hz)) h.2
      exact ⟨by rw [h.1, hxs'], hab, hrest⟩

/-- So is a list at its last element with the property. -/
theorem append_cons_inj_of_last {p : α → Bool} (hxs : ∀ x ∈ rest, p x = false)
    (hys : ∀ y ∈ rest', p y = false) (ha : p a = true) (hb : p b = true)
    (h : xs ++ a :: rest = ys ++ b :: rest') : xs = ys ∧ a = b ∧ rest = rest' := by
  -- The last element is the first of the reversed list.
  have hreverse := congrArg List.reverse h
  simp only [List.reverse_append, List.reverse_cons, List.append_assoc, List.singleton_append]
    at hreverse
  obtain ⟨hrest, hab, hfirst⟩ := append_cons_inj_of_first
    (fun x hx => hxs x (List.mem_reverse.mp hx)) (fun y hy => hys y (List.mem_reverse.mp hy))
    ha hb hreverse
  exact ⟨List.reverse_inj.mp hfirst, hab, List.reverse_inj.mp hrest⟩

/-- A beginning ends before an element that it does not hold. -/
theorem isPrefix_of_isPrefix_append_cons (ha : a ∉ xs) (h : xs <+: ys ++ a :: rest) :
    xs <+: ys := by
  rcases List.prefix_or_prefix_of_prefix h (List.prefix_append ys (a :: rest)) with hle | ⟨zs, rfl⟩
  · exact hle
  · rcases zs with - | ⟨z, zs⟩
    · simp
    · rw [List.prefix_append_right_inj, List.cons_prefix_cons] at h
      rw [h.1] at ha
      exact absurd (List.mem_append_right ys List.mem_cons_self) ha

/-- A list is cut at the first place of two elements in a row in one way only. -/
theorem append_pair_inj_of_first (hab : a ≠ b) (hxs : ¬ [a, b] <:+: xs) (hys : ¬ [a, b] <:+: ys)
    (h : xs ++ a :: b :: rest = ys ++ a :: b :: rest') : xs = ys ∧ rest = rest' := by
  -- What one of the beginnings has more than the other is empty: it would begin with the two.
  have hnil : ∀ {us vs vs' : List α}, ¬ [a, b] <:+: us → a :: b :: vs = us ++ a :: b :: vs' →
      us = [] := by
    rintro (- | ⟨u, - | ⟨u', us⟩⟩) vs vs' hus heq
    · rfl
    · simp only [List.cons_append, List.nil_append, List.cons.injEq] at heq
      exact absurd heq.2.1.symm hab
    · simp only [List.cons_append, List.cons.injEq] at heq
      rw [← heq.1, ← heq.2.1] at hus
      exact absurd (List.prefix_append [a, b] us).isInfix hus
  rcases List.append_eq_append_iff.mp h with ⟨more, rfl, heq⟩ | ⟨more, rfl, heq⟩
  · obtain rfl := hnil (fun hmore => hys (hmore.trans (List.suffix_append xs more).isInfix)) heq
    simpa using heq
  · obtain rfl := hnil (fun hmore => hxs (hmore.trans (List.suffix_append ys more).isInfix)) heq
    simpa using heq.symm

/-- Texts are cut at a separator in one way only if it has a character that does not stand before
it. -/
theorem separated_inj {first first' last last' separator : String} {before after : List Char}
    {c : Char} (hseparator : separator.toList = before ++ c :: after) (hbefore : c ∉ before)
    (hfirst : c ∉ first.toList) (hfirst' : c ∉ first'.toList)
    (h : first ++ (separator ++ last) = first' ++ (separator ++ last')) :
    first = first' ∧ last = last' := by
  -- The character does not occur before its place in the separator, so that is where it occurs
  -- first.
  have hfront : ∀ {text : String}, c ∉ text.toList →
      ∀ d ∈ text.toList ++ before, (d == c) = false := by
    intro text htext d hd
    rw [beq_eq_false_iff_ne]
    rintro rfl
    exact (List.mem_append.mp hd).elim htext hbefore
  have hlists := congrArg String.toList h
  simp only [String.toList_append, hseparator, List.append_assoc, List.cons_append] at hlists
  rw [← List.append_assoc, ← List.append_assoc] at hlists
  obtain ⟨hfronts, -, hlasts⟩ := append_cons_inj_of_first (p := (· == c)) (hfront hfirst)
    (hfront hfirst') (beq_self_eq_true c) (beq_self_eq_true c) hlists
  exact ⟨String.toList_inj.mp (List.append_cancel_right hfronts),
    String.toList_inj.mp (List.append_cancel_left hlasts)⟩

end X86Gloss
