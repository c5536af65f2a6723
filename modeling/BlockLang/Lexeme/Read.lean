-- SUMMARY: Reading a lexeme off the front of a text.
import BlockLang.Lexeme.Basic
import BlockLang.Word

namespace BlockLang

/-!
## Reading a lexeme

`Lexeme.read` takes the longest lexeme off the front of a text, or tells why there is none. What it
takes is exactly the lexeme's spelling: `Lexeme.spelling_append_of_read`.
-/

/-- Why no lexeme could be read. -/
inductive LexicalFault where
  /-- A string is not closed before the text ends. -/
  | unterminatedString
  /-- A quoted character is not followed by the closing quote. -/
  | expectedClosingQuote
  /-- An operator that is written twice stands alone before `found`. -/
  | undoubledOperator (operator : Char) (found : Option Char)
  /-- The value of a numeral does not fit in a word. -/
  | numeralOutOfRange (digits : String)
deriving DecidableEq, Repr

namespace Lexeme

/-- What a text begins with. -/
inductive Reading where
  /-- There is nothing to read. -/
  | nothing
  | lexeme (lexeme : Lexeme) (rest : List Char)
  /-- Reading fails after some characters. -/
  | fault (fault : LexicalFault) (consumed rest : List Char)

/-- Read a word: all characters up to the first that cannot continue it. -/
def readWord (text : List Char) : Reading :=
  .lexeme (ofWord (String.ofList (text.takeWhile isWordPart))) (text.dropWhile isWordPart)

/-- Read a numeral: all digits, provided that their value fits in a word. -/
def readNumeral (text : List Char) : Reading :=
  let digits := text.takeWhile Char.isDigit
  let rest := text.dropWhile Char.isDigit
  if FitsWord (numeralValue digits) then .lexeme (.numeral (String.ofList digits)) rest
  else .fault (.numeralOutOfRange (String.ofList digits)) digits rest

/-- Read a string after its opening quote: all characters up to the next quote. -/
def readString (text : List Char) : Reading :=
  match text.dropWhile (· != '"') with
  | [] => .fault .unterminatedString ('"' :: text) []
  | _ :: rest => .lexeme (.stringLiteral (String.ofList (text.takeWhile (· != '"')))) rest

/-- Read a character after its opening quote: any character, then the closing quote. -/
def readCharacter : List Char → Reading
  | [] => .fault .expectedClosingQuote ['\''] []
  | [c] => .fault .expectedClosingQuote ['\'', c] []
  | c :: d :: rest =>
    if d = '\'' then .lexeme (.character c) rest
    else .fault .expectedClosingQuote ['\'', c] (d :: rest)

/-- The mark that a character spells together with the first one after it. -/
def doubleMark? (c : Char) (text : List Char) : Option Punctuation :=
  text.head?.bind fun d => Punctuation.ofSpelling? [c, d]

/-- Read a mark that starts with `c`, the longer one if there are two. A character that starts no
mark is unknown. -/
def readMark (c : Char) (text : List Char) : Reading :=
  match doubleMark? c text with
  | some m => .lexeme (.mark m) text.tail
  | none =>
    if Punctuation.isDoubledOnly c then .fault (.undoubledOperator c text.head?) [c] text
    else match Punctuation.ofSpelling? [c] with
      | some m => .lexeme (.mark m) text
      | none => .lexeme (.unknown c) text

/-- Read the lexeme at the front of a text, which does not start with a blank. -/
def read : List Char → Reading
  | [] => .nothing
  | c :: text =>
    if Text.isAlphabetic c then readWord (c :: text)
    else if c.isDigit then readNumeral (c :: text)
    else if c = '"' then readString text
    else if c = '\'' then readCharacter text
    else readMark c text

/-! ## What is read is spelled -/

theorem spelling_append_of_readWord {text rest : List Char} {l : Lexeme}
    (h : readWord text = .lexeme l rest) : l.spelling ++ rest = text := by
  simp only [readWord, Reading.lexeme.injEq] at h
  obtain ⟨rfl, rfl⟩ := h
  simp [spelling_ofWord]

theorem spelling_append_of_readNumeral {text rest : List Char} {l : Lexeme}
    (h : readNumeral text = .lexeme l rest) : l.spelling ++ rest = text := by
  simp only [readNumeral] at h
  split at h
  · obtain ⟨rfl, rfl⟩ := Reading.lexeme.inj h
    simp [spelling]
  · cases h

theorem spelling_append_of_readString {text rest : List Char} {l : Lexeme}
    (h : readString text = .lexeme l rest) : l.spelling ++ rest = '"' :: text := by
  simp only [readString] at h
  split at h
  · cases h
  · next c r heq =>
    obtain ⟨rfl, rfl⟩ := Reading.lexeme.inj h
    have hc : c = '"' := by
      simpa [heq] using List.head_dropWhile_not (p := (· != '"')) (l := text) (by simp [heq])
    have hsplit := List.takeWhile_append_dropWhile (p := (· != '"')) (l := text)
    rw [heq, hc] at hsplit
    simp [spelling, hsplit]

theorem spelling_append_of_readCharacter {text rest : List Char} {l : Lexeme}
    (h : readCharacter text = .lexeme l rest) : l.spelling ++ rest = '\'' :: text := by
  rcases text with _ | ⟨c, _ | ⟨d, text⟩⟩
  · cases h
  · cases h
  · simp only [readCharacter] at h
    split at h
    · next hd =>
      obtain ⟨rfl, rfl⟩ := Reading.lexeme.inj h
      simp [spelling, hd]
    · cases h

theorem spelling_append_of_readMark {c : Char} {text rest : List Char} {l : Lexeme}
    (h : readMark c text = .lexeme l rest) : l.spelling ++ rest = c :: text := by
  simp only [readMark] at h
  split at h
  · next m hm =>
    obtain ⟨rfl, rfl⟩ := Reading.lexeme.inj h
    cases text with
    | nil => simp [doubleMark?] at hm
    | cons d r => simp [spelling, Punctuation.ofSpelling?_eq_some_iff.1 hm]
  · split at h
    · cases h
    · split at h
      · next m hm =>
        obtain ⟨rfl, rfl⟩ := Reading.lexeme.inj h
        simp [spelling, Punctuation.ofSpelling?_eq_some_iff.1 hm]
      · obtain ⟨rfl, rfl⟩ := Reading.lexeme.inj h
        rfl

/-- The lexeme read and the rest make up the text. -/
theorem spelling_append_of_read {text rest : List Char} {l : Lexeme}
    (h : read text = .lexeme l rest) : l.spelling ++ rest = text := by
  cases text with
  | nil => cases h
  | cons c text =>
    simp only [read] at h
    split at h
    · exact spelling_append_of_readWord h
    split at h
    · exact spelling_append_of_readNumeral h
    split at h
    · next hc => rw [spelling_append_of_readString h, hc]
    split at h
    · next hc => rw [spelling_append_of_readCharacter h, hc]
    · exact spelling_append_of_readMark h

theorem spelling_ne_nil_of_readNumeral {c : Char} {text rest : List Char} {l : Lexeme}
    (hc : c.isDigit) (h : readNumeral (c :: text) = .lexeme l rest) : l.spelling ≠ [] := by
  simp only [readNumeral] at h
  split at h
  · obtain ⟨rfl, rfl⟩ := Reading.lexeme.inj h
    simp [spelling, hc]
  · cases h

theorem spelling_ne_nil_of_readString {text rest : List Char} {l : Lexeme}
    (h : readString text = .lexeme l rest) : l.spelling ≠ [] := by
  simp only [readString] at h
  split at h
  · cases h
  · obtain ⟨rfl, rfl⟩ := Reading.lexeme.inj h
    simp [spelling]

theorem spelling_ne_nil_of_readCharacter {text rest : List Char} {l : Lexeme}
    (h : readCharacter text = .lexeme l rest) : l.spelling ≠ [] := by
  rcases text with _ | ⟨c, _ | ⟨d, text⟩⟩
  · cases h
  · cases h
  · simp only [readCharacter] at h
    split at h
    · obtain ⟨rfl, rfl⟩ := Reading.lexeme.inj h
      simp [spelling]
    · cases h

theorem spelling_ne_nil_of_readMark {c : Char} {text rest : List Char} {l : Lexeme}
    (h : readMark c text = .lexeme l rest) : l.spelling ≠ [] := by
  simp only [readMark] at h
  split at h
  · obtain ⟨rfl, rfl⟩ := Reading.lexeme.inj h
    exact Punctuation.spelling_ne_nil _
  split at h
  · cases h
  split at h
  · obtain ⟨rfl, rfl⟩ := Reading.lexeme.inj h
    exact Punctuation.spelling_ne_nil _
  · obtain ⟨rfl, rfl⟩ := Reading.lexeme.inj h
    simp [spelling]

/-- A lexeme that is read has at least one character. -/
theorem spelling_ne_nil_of_read {text rest : List Char} {l : Lexeme}
    (h : read text = .lexeme l rest) : l.spelling ≠ [] := by
  cases text with
  | nil => cases h
  | cons c text =>
    simp only [read] at h
    split at h
    · next hc =>
      obtain ⟨rfl, rfl⟩ := Reading.lexeme.inj h
      simp [spelling_ofWord, isWordPart, hc]
    split at h
    · next hc => exact spelling_ne_nil_of_readNumeral hc h
    split at h
    · exact spelling_ne_nil_of_readString h
    split at h
    · exact spelling_ne_nil_of_readCharacter h
    · exact spelling_ne_nil_of_readMark h

/-- Reading a lexeme leaves less to read. -/
theorem length_rest_lt_of_read {text rest : List Char} {l : Lexeme}
    (h : read text = .lexeme l rest) : rest.length < text.length := by
  rw [← spelling_append_of_read h, List.length_append]
  have := List.length_pos_iff.2 (spelling_ne_nil_of_read h)
  omega

end Lexeme

end BlockLang
