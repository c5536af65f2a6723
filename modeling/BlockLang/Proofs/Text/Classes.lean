-- SUMMARY: Splitting a text after a run of characters, and which character classes have no member in common.
import BlockLang.Text.Alphabetic
import BlockLang.Text.Blank

namespace BlockLang.Text

/-!
# Runs and character classes

A text splits in one way only into its longest run of characters of a class and the rest. Blanks,
letters and digits are three classes of which no two share a character.
-/

/-! ## Runs -/

/-- `text` is its longest run of characters with `p`, and then `rest`. -/
structure Splits (p : Char → Bool) (text run rest : List Char) : Prop where
  append : run ++ rest = text
  inside : ∀ c ∈ run, p c
  stops : ∀ c ∈ rest.head?, p c = false

theorem splits_while (p : Char → Bool) (text : List Char) :
    Splits p text (text.takeWhile p) (text.dropWhile p) := by
  refine ⟨List.takeWhile_append_dropWhile, ?_, ?_⟩
  · intro c hc
    exact List.all_eq_true.1 List.all_takeWhile c hc
  · intro c hc
    have hstop := List.head?_dropWhile_not p text
    rw [Option.mem_def.1 hc] at hstop
    exact hstop

namespace Splits

variable {p : Char → Bool} {text run rest : List Char}

theorem takeWhile_eq (h : Splits p text run rest) : text.takeWhile p = run := by
  rw [← h.append, List.takeWhile_append_of_pos h.inside]
  cases rest with
  | nil => simp
  | cons c rest => simp [h.stops c rfl]

theorem dropWhile_eq (h : Splits p text run rest) : text.dropWhile p = rest := by
  rw [← h.append, List.dropWhile_append_of_pos h.inside]
  cases rest with
  | nil => simp
  | cons c rest => simp [h.stops c rfl]

theorem stops_of_append {taken : List Char} (h : Splits p text run (taken ++ rest)) :
    ∀ c ∈ taken.head?, p c = false := by
  intro c hc
  apply h.stops
  rw [List.head?_append, Option.mem_def.1 hc]
  rfl

/-- A run that a character has stopped stays as it is, whatever is written after that character. -/
theorem extend (h : Splits p text run rest) (hrest : rest ≠ []) (more : List Char) :
    Splits p (text ++ more) run (rest ++ more) where
  append := by rw [← h.append, List.append_assoc]
  inside := h.inside
  stops := by
    obtain ⟨c, others, rfl⟩ := List.exists_cons_of_ne_nil hrest
    exact h.stops

end Splits

/-- Two texts that begin with a run of a class are equal only if their runs are, and what stops these. -/
theorem append_inj_of_runs {p : Char → Bool} {run run' rest rest' : List Char}
    (hrun : ∀ c ∈ run, p c) (hrun' : ∀ c ∈ run', p c) (hrest : ∀ c ∈ rest.head?, p c = false)
    (hrest' : ∀ c ∈ rest'.head?, p c = false) (h : run ++ rest = run' ++ rest') :
    run = run' ∧ rest = rest' := by
  have hsplits : Splits p (run ++ rest) run rest := ⟨rfl, hrun, hrest⟩
  have hsplits' : Splits p (run ++ rest) run' rest' := ⟨h.symm, hrun', hrest'⟩
  exact ⟨hsplits.takeWhile_eq.symm.trans hsplits'.takeWhile_eq,
    hsplits.dropWhile_eq.symm.trans hsplits'.dropWhile_eq⟩

/-! ## Deciding what holds of the characters at hand -/

-- These go before any instance that goes through all characters there are.
instance (priority := high) decidableForallMem (p : Char → Prop) [DecidablePred p]
    (text : List Char) : Decidable (∀ c ∈ text, p c) :=
  List.decidableBAll p text

instance (priority := high) decidableExistsMemOption (p : Char → Prop) [DecidablePred p]
    (first : Option Char) : Decidable (∃ c ∈ first, p c) :=
  Option.decidableExistsMem first

/-! ## Classes without a common member -/

/-- Whether no range of one table meets a range of the other. -/
def Ranges.apart (r s : Ranges) : Bool :=
  r.all fun a => s.all fun b => a.2 < b.1 || b.2 < a.1

theorem Ranges.not_contains_of_apart {r s : Ranges} (h : r.apart s) {c : Char}
    (hc : r.contains c) : s.contains c = false := by
  obtain ⟨a, ha, hlow, hhigh⟩ := Ranges.contains_iff.1 hc
  rw [Bool.eq_false_iff]
  intro hs
  obtain ⟨b, hb, hlow', hhigh'⟩ := Ranges.contains_iff.1 hs
  have hab := List.all_eq_true.1 (List.all_eq_true.1 h a ha) b hb
  simp only [Bool.or_eq_true, decide_eq_true_eq] at hab
  omega

def digitRanges : Ranges := [(0x30, 0x39)]

def asciiLetterRanges : Ranges := [(0x41, 0x5A), (0x61, 0x7A)]

theorem isDigit_eq_contains (c : Char) : c.isDigit = digitRanges.contains c := by
  rw [Bool.eq_iff_iff, Ranges.contains_iff]
  simp [digitRanges, Char.isDigit, UInt32.le_iff_toNat_le]

theorem isAlpha_eq_contains (c : Char) : c.isAlpha = asciiLetterRanges.contains c := by
  change (decide (c.val ≥ 0x41 ∧ c.val ≤ 0x5A) ||
    (decide (c.val ≥ 0x61) && decide (c.val ≤ 0x7A))) = _
  rw [Bool.eq_iff_iff, Ranges.contains_iff]
  simp [asciiLetterRanges, UInt32.le_iff_toNat_le]

/-- A class that meets neither part of the table of letters has no letter. -/
theorem isAlphabetic_of_apart {r : Ranges} (hascii : r.apart asciiLetterRanges)
    (hothers : r.apart alphabeticRanges) {c : Char} (hc : r.contains c) :
    isAlphabetic c = false := by
  unfold isAlphabetic
  split
  · rw [isAlpha_eq_contains]
    exact Ranges.not_contains_of_apart hascii hc
  · exact Ranges.not_contains_of_apart hothers hc

theorem isAlphabetic_of_isBlank {c : Char} (h : isBlank c) : isAlphabetic c = false :=
  isAlphabetic_of_apart (by decide) (by decide +kernel) h

theorem isAlphabetic_of_isDigit {c : Char} (h : c.isDigit) : isAlphabetic c = false := by
  rw [isDigit_eq_contains] at h
  exact isAlphabetic_of_apart (by decide) (by decide +kernel) h

theorem isDigit_of_isBlank {c : Char} (h : isBlank c) : c.isDigit = false := by
  rw [isDigit_eq_contains]
  exact Ranges.not_contains_of_apart (by decide) h

end BlockLang.Text
