-- SUMMARY: Which characters break a line, and that a text of unbroken lines tells what they are.
import BlockLang.Proofs.Text.Classes
import BlockLang.Text.Lines

namespace BlockLang.Text

/-!
# Unbroken lines

A reader of a text may end a line at any of several characters, not at the line feed alone. Lines
that hold none of these are the lines that anyone sees, and no two rows of such lines make up the
same text: `unlines_injective`.
-/

/-- The control characters, and the separators of lines and of paragraphs. -/
def breakRanges : Ranges :=
  [(0x0, 0x1F), (0x7F, 0x9F), (0x2028, 0x2029)]

/-- No character of a text breaks a line. -/
def Unbroken (text : List Char) : Prop :=
  ∀ c ∈ text, breakRanges.contains c = false

instance : DecidablePred Unbroken :=
  fun text => decidableForallMem _ text

theorem unbroken_append {s t : List Char} : Unbroken (s ++ t) ↔ Unbroken s ∧ Unbroken t :=
  List.forall_mem_append

theorem unlines_cons (line : String) (lines : List String) :
    (unlines (line :: lines)).toList = line.toList ++ '\n' :: (unlines lines).toList := by
  simp [unlines]

theorem Unbroken.ne_lineFeed {text : List Char} (h : Unbroken text) : ∀ c ∈ text, c != '\n' := by
  intro c hc
  rw [bne_iff_ne]
  rintro rfl
  cases h _ hc

/-- Unbroken lines are found again in the text that they make up. -/
theorem unlines_injective {lines lines' : List String} (h : ∀ line ∈ lines, Unbroken line.toList)
    (h' : ∀ line ∈ lines', Unbroken line.toList) (hsame : unlines lines = unlines lines') :
    lines = lines' := by
  have hstop : ∀ text : List Char, ∀ c ∈ ('\n' :: text).head?, (c != '\n') = false := by
    rintro _ _ ⟨⟩
    rfl
  induction lines generalizing lines' with
  | nil =>
    cases lines' with
    | nil => rfl
    | cons line' lines' => simpa [unlines] using congrArg String.toList hsame
  | cons line lines ih =>
    cases lines' with
    | nil => simpa [unlines] using congrArg String.toList hsame
    | cons line' lines' =>
      obtain ⟨hline, hlines⟩ := List.forall_mem_cons.1 h
      obtain ⟨hline', hlines'⟩ := List.forall_mem_cons.1 h'
      have htext := congrArg String.toList hsame
      rw [unlines_cons, unlines_cons] at htext
      obtain ⟨hfirst, hrest⟩ := append_inj_of_runs hline.ne_lineFeed hline'.ne_lineFeed (hstop _)
        (hstop _) htext
      have hothers := String.toList_inj.1 (List.cons.inj hrest).2
      rw [String.toList_inj.1 hfirst, ih hlines hlines' hothers]

end BlockLang.Text
