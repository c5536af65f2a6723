-- SUMMARY: The bound on numerals, sizes and counts.

namespace BlockLang

/-!
## Machine words

Numerals, sizes, counts and depths are natural numbers that fit in a word of 64 bits. Nothing wraps:
a value beyond the bound is a fault of its own wherever it arises.
-/

/-- The first natural number that does not fit in a word. -/
def wordBound : Nat := 0x10000000000000000

/-- Whether a number fits in a word. -/
abbrev FitsWord (n : Nat) : Prop := n < wordBound

end BlockLang
