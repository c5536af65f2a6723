-- SUMMARY: Looking an item up by its spelling in a complete list of differently spelled items.

namespace BlockLang

/-!
## Spellings

Reserved words and punctuation marks are finite families whose members are told apart by how they
are spelled.
-/

/-- The first item of a list with a given spelling. -/
def findSpelled? {α β : Type} [BEq β] (items : List α) (spelling : α → β) (text : β) : Option α :=
  items.find? (spelling · == text)

/-- In a complete list of differently spelled items, the look-up inverts the spelling. -/
theorem findSpelled?_eq_some_iff {α β : Type} [BEq β] [LawfulBEq β] {items : List α}
    {spelling : α → β} (complete : ∀ a, a ∈ items)
    (injective : ∀ a b, spelling a = spelling b → a = b) {text : β} {a : α} :
    findSpelled? items spelling text = some a ↔ spelling a = text := by
  constructor
  · intro h
    simpa using List.find?_some h
  · intro h
    cases found : findSpelled? items spelling text with
    | none => exact absurd h (by simpa using List.find?_eq_none.1 found a (complete a))
    | some b =>
      have hb : spelling b = text := by simpa using List.find?_some found
      rw [injective b a (hb.trans h.symm)]

end BlockLang
