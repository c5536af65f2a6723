-- SUMMARY: Reading looks no further than one character behind what it takes.
import BlockLang.Proofs.Lexeme.Longest

namespace BlockLang.Lexeme

/-!
# Lookahead

If reading leaves at least one character, then what it makes of the text has been decided by that
character and those before it: `read_extend`. Only at the end of a text can more text change what is
read, since the end is no character of any class.
-/

/-- What reading leaves. -/
def Reading.rest : Reading → List Char
  | .nothing => []
  | .lexeme _ rest | .fault _ _ rest => rest

/-- The same reading with more text behind what it leaves. -/
def Reading.extend (more : List Char) : Reading → Reading
  | .nothing => .nothing
  | .lexeme l rest => .lexeme l (rest ++ more)
  | .fault reason consumed rest => .fault reason consumed (rest ++ more)

section Readers

variable {c : Char} {text : List Char} (more : List Char)

theorem readWord_extend (h : (readWord text).rest ≠ []) :
    readWord (text ++ more) = (readWord text).extend more := by
  have hsplits := (Text.splits_while isWordPart text).extend h more
  simp only [readWord, hsplits.takeWhile_eq, hsplits.dropWhile_eq, Reading.extend]

theorem rest_readNumeral (text : List Char) :
    (readNumeral text).rest = text.dropWhile Char.isDigit := by
  simp only [readNumeral]
  split <;> rfl

theorem readNumeral_extend (h : (readNumeral text).rest ≠ []) :
    readNumeral (text ++ more) = (readNumeral text).extend more := by
  rw [rest_readNumeral] at h
  have hsplits := (Text.splits_while Char.isDigit text).extend h more
  simp only [readNumeral, hsplits.takeWhile_eq, hsplits.dropWhile_eq]
  split <;> rfl

theorem readString_extend (h : (readString text).rest ≠ []) :
    readString (text ++ more) = (readString text).extend more := by
  cases hdrop : text.dropWhile (· != '"') with
  | nil => simp [readString, hdrop, Reading.rest] at h
  | cons quote rest =>
    have hsplits := (Text.splits_while (· != '"') text).extend (by simp [hdrop]) more
    simp [readString, hsplits.takeWhile_eq, hsplits.dropWhile_eq, hdrop, Reading.extend]

theorem readCharacter_extend (h : (readCharacter text).rest ≠ []) :
    readCharacter (text ++ more) = (readCharacter text).extend more := by
  rcases text with _ | ⟨c, _ | ⟨d, text⟩⟩
  · exact absurd rfl h
  · exact absurd rfl h
  · simp only [readCharacter, List.cons_append]
    split <;> rfl

theorem rest_readMark_nil (c : Char) : (readMark c []).rest = [] := by
  simp only [readMark]
  repeat' split
  all_goals rfl

theorem readMark_extend (h : (readMark c text).rest ≠ []) :
    readMark c (text ++ more) = (readMark c text).extend more := by
  cases text with
  | nil => exact absurd (rest_readMark_nil c) h
  | cons d text =>
    have hdouble : doubleMark? c (d :: text ++ more) = doubleMark? c (d :: text) := rfl
    simp only [readMark, hdouble]
    repeat' split
    all_goals rfl

end Readers

/-- What is read of a text is read of a longer one as well, if a character is left that shows where
it ends. -/
theorem read_extend {text : List Char} (h : (read text).rest ≠ []) (more : List Char) :
    read (text ++ more) = (read text).extend more := by
  cases text with
  | nil => exact absurd rfl h
  | cons c text =>
    have hlonger := read_cons c (text ++ more)
    rw [← List.cons_append] at hlonger
    rw [hlonger]
    rw [read_cons] at h ⊢
    cases hhead : Form.ofHead c with
    | word => exact readWord_extend more (by simpa only [hhead] using h)
    | numeral => exact readNumeral_extend more (by simpa only [hhead] using h)
    | stringLiteral => exact readString_extend more (by simpa only [hhead] using h)
    | character => exact readCharacter_extend more (by simpa only [hhead] using h)
    | symbol => exact readMark_extend more (by simpa only [hhead] using h)

theorem read_extend_of_lexeme {text rest : List Char} {l : Lexeme} (h : read text = .lexeme l rest)
    (hrest : rest ≠ []) (more : List Char) : read (text ++ more) = .lexeme l (rest ++ more) := by
  rw [read_extend (by rw [h]; exact hrest), h, Reading.extend]

theorem read_extend_of_fault {text consumed rest : List Char} {fault : LexicalFault}
    (h : read text = .fault fault consumed rest) (hrest : rest ≠ []) (more : List Char) :
    read (text ++ more) = .fault fault consumed (rest ++ more) := by
  rw [read_extend (by rw [h]; exact hrest), h, Reading.extend]

/-- At the end of a text, a mark can still become another one. -/
example : read ['<'] = .lexeme (.mark .lessThan) [] ∧
    read ['<', '='] = .lexeme (.mark .lessOrEqual) [] :=
  ⟨rfl, rfl⟩

end BlockLang.Lexeme
