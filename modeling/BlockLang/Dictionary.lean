-- SUMMARY: Dictionaries: finite maps in which a key has one value at most.

namespace BlockLang

/-!
# Dictionaries

A key that is given a new value loses the one that it had. What a dictionary answers after an
insertion is all that is ever used of it: `Dictionary.get?_insert`.
-/

structure Dictionary (κ α : Type) where
  entries : List (κ × α) := []
deriving DecidableEq, Repr

namespace Dictionary

variable {κ α : Type} [DecidableEq κ]

def get? (d : Dictionary κ α) (key : κ) : Option α :=
  d.entries.lookup key

/-- Give a key a value, in place of the one that it has. -/
def insert (d : Dictionary κ α) (key : κ) (value : α) : Dictionary κ α :=
  ⟨(key, value) :: d.entries.filter (·.1 ≠ key)⟩

@[simp]
theorem get?_empty (key : κ) : ({} : Dictionary κ α).get? key = none :=
  rfl

/-- What is left out for one key is not found under any other. -/
theorem lookup_filter_ne {key other : κ} (h : other ≠ key) (entries : List (κ × α)) :
    (entries.filter (·.1 ≠ key)).lookup other = entries.lookup other := by
  induction entries with
  | nil => rfl
  | cons entry entries ih =>
    obtain ⟨first, value⟩ := entry
    by_cases hfirst : first = key
    · subst hfirst
      rw [List.filter_cons_of_neg (by simp), ih, List.lookup_cons, beq_eq_false_iff_ne.2 h]
    · rw [List.filter_cons_of_pos (by simpa using hfirst), List.lookup_cons, List.lookup_cons, ih]

theorem get?_insert (d : Dictionary κ α) (key : κ) (value : α) (other : κ) :
    (d.insert key value).get? other = if other = key then some value else d.get? other := by
  by_cases h : other = key
  · subst h
    rw [if_pos rfl, get?, insert, List.lookup_cons_self]
  · rw [if_neg h, get?, insert, List.lookup_cons, beq_eq_false_iff_ne.2 h]
    exact lookup_filter_ne h d.entries

end Dictionary

end BlockLang
