-- SUMMARY: What a computation that may fail succeeds with, and what it fails with.
import Mathlib.Logic.Basic

namespace Except

/-!
# Computations that may fail

When steps that may fail are taken one after the other, a result comes from results of all steps,
and an error comes from the first step that fails. Whatever is found out about a request or a run of
the program takes it apart by these facts.
-/

variable {ε ε' α β : Type}

theorem bind_eq_ok_iff {x : Except ε α} {f : α → Except ε β} {b : β} :
    x >>= f = .ok b ↔ ∃ a, x = .ok a ∧ f a = .ok b := by
  cases x <;> simp [bind, Except.bind]

theorem bind_eq_error_iff {x : Except ε α} {f : α → Except ε β} {e : ε} :
    x >>= f = .error e ↔ x = .error e ∨ ∃ a, x = .ok a ∧ f a = .error e := by
  cases x <;> simp [bind, Except.bind]

theorem map_eq_ok_iff {x : Except ε α} {f : α → β} {b : β} :
    x.map f = .ok b ↔ ∃ a, x = .ok a ∧ f a = b := by
  cases x <;> simp [Except.map]

theorem map_eq_error_iff {x : Except ε α} {f : α → β} {e : ε} :
    x.map f = .error e ↔ x = .error e := by
  cases x <;> simp [Except.map]

theorem mapError_eq_ok_iff {x : Except ε α} {f : ε → ε'} {a : α} :
    x.mapError f = .ok a ↔ x = .ok a := by
  constructor
  · intro h
    cases x with
    | error e => cases h
    | ok b =>
      cases h
      rfl
  · rintro rfl
    rfl

/-- A list is gone through up to the first element at which something is wrong. -/
theorem foldlM_eq_error_iff {f : β → α → Except ε β} {b : β} {l : List α} {e : ε} :
    l.foldlM f b = .error e ↔
      ∃ before a after b', l = before ++ a :: after ∧ before.foldlM f b = .ok b' ∧
        f b' a = .error e := by
  induction l generalizing b with
  | nil => simp [pure, Except.pure]
  | cons x l ih =>
    rw [List.foldlM_cons, bind_eq_error_iff]
    constructor
    · rintro (herror | ⟨c, hok, hrest⟩)
      · exact ⟨[], x, l, b, rfl, rfl, herror⟩
      · obtain ⟨before, a, after, b', rfl, hbefore, herror⟩ := ih.1 hrest
        refine ⟨x :: before, a, after, b', rfl, ?_, herror⟩
        rw [List.foldlM_cons, hok]
        exact hbefore
    · rintro ⟨before, a, after, b', heq, hbefore, herror⟩
      cases before with
      | nil =>
        cases heq
        cases hbefore
        exact Or.inl herror
      | cons y before =>
        cases heq
        rw [List.foldlM_cons] at hbefore
        obtain ⟨c, hok, hbefore⟩ := bind_eq_ok_iff.1 hbefore
        exact Or.inr ⟨c, hok, ih.2 ⟨before, a, after, b', rfl, hbefore, herror⟩⟩

end Except
