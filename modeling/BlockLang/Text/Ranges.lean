-- SUMMARY: Sets of characters given by ranges of code points.

namespace BlockLang.Text

/-!
## Ranges of code points

A character class of the Unicode standard is a table: a list of inclusive ranges of code points.
-/

/-- A set of characters, as the first and last code point of each of its runs. -/
abbrev Ranges := List (Nat × Nat)

def Ranges.contains (ranges : Ranges) (c : Char) : Bool :=
  ranges.any fun range => range.1 ≤ c.toNat && c.toNat ≤ range.2

theorem Ranges.contains_iff {ranges : Ranges} {c : Char} :
    ranges.contains c ↔ ∃ range ∈ ranges, range.1 ≤ c.toNat ∧ c.toNat ≤ range.2 := by
  simp [Ranges.contains]

end BlockLang.Text
