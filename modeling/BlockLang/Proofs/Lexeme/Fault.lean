-- SUMMARY: What has been read when a lexeme turns out to be faulty.
import BlockLang.Lexeme.Read

namespace BlockLang.Lexeme

/-!
# Faults

Where no lexeme can be read, reading stops after the characters that show it: together with the rest
they make up the text, and there is at least one of them.
-/

/-- The text from a fault on: `consumed` shows the fault, and `rest` has not been looked at. -/
structure Stops (text consumed rest : List Char) : Prop where
  append : consumed ++ rest = text
  consumed_ne_nil : consumed ≠ []

variable {text consumed rest : List Char} {fault : LexicalFault}

theorem stops_of_readNumeral {c : Char} (hc : c.isDigit)
    (h : readNumeral (c :: text) = .fault fault consumed rest) :
    Stops (c :: text) consumed rest := by
  simp only [readNumeral] at h
  split at h
  · cases h
  · obtain ⟨-, rfl, rfl⟩ := Reading.fault.inj h
    exact ⟨List.takeWhile_append_dropWhile, by simp [hc]⟩

theorem stops_of_readString (h : readString text = .fault fault consumed rest) :
    Stops ('"' :: text) consumed rest := by
  simp only [readString] at h
  split at h
  · obtain ⟨-, rfl, rfl⟩ := Reading.fault.inj h
    exact ⟨List.append_nil _, List.cons_ne_nil _ _⟩
  · cases h

theorem stops_of_readCharacter (h : readCharacter text = .fault fault consumed rest) :
    Stops ('\'' :: text) consumed rest := by
  rcases text with _ | ⟨c, _ | ⟨d, text⟩⟩
  · obtain ⟨-, rfl, rfl⟩ := Reading.fault.inj h
    exact ⟨rfl, List.cons_ne_nil _ _⟩
  · obtain ⟨-, rfl, rfl⟩ := Reading.fault.inj h
    exact ⟨rfl, List.cons_ne_nil _ _⟩
  · simp only [readCharacter] at h
    split at h
    · cases h
    · obtain ⟨-, rfl, rfl⟩ := Reading.fault.inj h
      exact ⟨rfl, List.cons_ne_nil _ _⟩

theorem stops_of_readMark {c : Char} (h : readMark c text = .fault fault consumed rest) :
    Stops (c :: text) consumed rest := by
  simp only [readMark] at h
  split at h
  · cases h
  split at h
  · obtain ⟨-, rfl, rfl⟩ := Reading.fault.inj h
    exact ⟨rfl, List.cons_ne_nil _ _⟩
  split at h
  · cases h
  · cases h

/-- A fault shows after one character or more. -/
theorem stops_of_read (h : read text = .fault fault consumed rest) : Stops text consumed rest := by
  cases text with
  | nil => cases h
  | cons c text =>
    simp only [read] at h
    split at h
    · cases h
    split at h
    · next hc => exact stops_of_readNumeral hc h
    split at h
    · next hc => exact hc ▸ stops_of_readString h
    split at h
    · next hc => exact hc ▸ stops_of_readCharacter h
    · exact stops_of_readMark h

end BlockLang.Lexeme
