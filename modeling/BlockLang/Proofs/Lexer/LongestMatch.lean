-- SUMMARY: One pull skips all blanks and takes the longest lexeme after them.
import BlockLang.Lexer.Basic
import BlockLang.Proofs.Lexeme.Longest

namespace BlockLang.Lexer

/-!
# Longest match

What a pull yields is determined by the grammar of lexemes alone. It fails where no lexeme comes
next, or where the longest one is a numeral whose value does not fit in a word.
-/

/-- The token for a lexeme that is written at `start`. -/
def tokenAt (tables : Tables) (start : Position) (lexeme : Lexeme) : Token :=
  { kind := lexeme.kind
    index := (tables.record lexeme).1
    span := start.to (start.advance lexeme.spelling) }

/-- The lexer after a lexeme that is written at `start`. -/
def afterLexeme (tables : Tables) (start : Position) (lexeme : Lexeme) (rest : List Char) : Lexer :=
  { rest, position := start.advance lexeme.spelling, tables := (tables.record lexeme).2 }

theorem isEnd_tokenAt (tables : Tables) (start : Position) (lexeme : Lexeme) :
    (tokenAt tables start lexeme).isEnd = false := by
  cases lexeme <;> rfl

theorem next_of_splits {l : Lexer} (active : l.state = .active) {blanks text : List Char}
    (h : Text.Splits Text.isBlank l.rest blanks text) :
    l.next = readToken l.tables (l.position.advance blanks) text := by
  simp only [next, active, h.takeWhile_eq, h.dropWhile_eq]

theorem readToken_of_lexeme {tables : Tables} {start : Position} {text rest : List Char}
    {lexeme : Lexeme} (h : Lexeme.read text = .lexeme lexeme rest) :
    readToken tables start text =
      (.ok (tokenAt tables start lexeme), afterLexeme tables start lexeme rest) := by
  simp [readToken, h, tokenAt, afterLexeme]

/-- Before the end of a text, a token is a lexeme that is read. -/
theorem readToken_eq_ok_iff {tables : Tables} {start : Position} {text : List Char}
    (hne : text ≠ []) {token : Token} {l : Lexer} :
    readToken tables start text = (.ok token, l) ↔
      ∃ lexeme rest, Lexeme.read text = .lexeme lexeme rest ∧
        token = tokenAt tables start lexeme ∧ l = afterLexeme tables start lexeme rest := by
  constructor
  · intro h
    cases hread : Lexeme.read text with
    | nothing =>
      obtain ⟨c, text, rfl⟩ := List.exists_cons_of_ne_nil hne
      exact absurd hread (Lexeme.read_ne_nothing c text)
    | lexeme lexeme rest =>
      rw [readToken_of_lexeme hread] at h
      obtain ⟨htoken, hlexer⟩ := Prod.mk.inj h
      exact ⟨lexeme, rest, rfl, (Except.ok.inj htoken).symm, hlexer.symm⟩
    | fault fault consumed rest =>
      simp only [readToken, hread] at h
      cases (Prod.mk.inj h).1
  · rintro ⟨lexeme, rest, hread, rfl, rfl⟩
    exact readToken_of_lexeme hread

/-- What keeps a text from being read on: it begins with no lexeme, or the longest one is a numeral
that is too large. -/
theorem not_exists_isLongest_iff {text : List Char} :
    (¬ ∃ lexeme : Lexeme, lexeme.IsLongest text ∧ lexeme.InRange) ↔
      (∀ lexeme : Lexeme, lexeme.WellFormed → ¬ lexeme.spelling <+: text) ∨
        ∃ digits, (Lexeme.numeral digits).IsLongest text ∧
          ¬ FitsWord (Lexeme.numeralValue digits.toList) := by
  constructor
  · intro h
    by_cases hnone : ∀ lexeme : Lexeme, lexeme.WellFormed → ¬ lexeme.spelling <+: text
    · exact Or.inl hnone
    · push Not at hnone
      obtain ⟨k, hk, hstarts⟩ := hnone
      obtain ⟨lexeme, hlongest⟩ := Lexeme.exists_isLongest hk hstarts
      have hrange : ¬ lexeme.InRange := fun hrange => h ⟨lexeme, hlongest, hrange⟩
      cases lexeme with
      | numeral digits => exact Or.inr ⟨digits, hlongest, hrange⟩
      | _ => exact absurd trivial hrange
  · rintro (hnone | ⟨digits, hlongest, hvalue⟩) ⟨lexeme, hlexeme, hrange⟩
    · exact hnone lexeme hlexeme.wellFormed hlexeme.starts
    · rw [hlexeme.unique hlongest] at hrange
      exact hvalue hrange

/-- What a pull makes of `text`, once the longest run of blanks before it is skipped. -/
structure PullsLongest (l : Lexer) (blanks text : List Char) : Prop where
  skips : Text.Splits Text.isBlank l.rest blanks text
  /-- At the end of the text there is the end token, and the lexer is finished. -/
  ends : text = [] → l.next =
    (.ok { kind := .endOfInput, span := (l.position.advance blanks).to (l.position.advance blanks) },
      { l with rest := [], position := l.position.advance blanks, state := .finished })
  /-- A token is the longest lexeme that comes next, and the lexer goes on right after it. -/
  takes : text ≠ [] → ∀ token l', l.next = (.ok token, l') ↔
    ∃ lexeme rest, lexeme.IsLongest text ∧ lexeme.InRange ∧ lexeme.spelling ++ rest = text ∧
      token = tokenAt l.tables (l.position.advance blanks) lexeme ∧
      l' = afterLexeme l.tables (l.position.advance blanks) lexeme rest
  /-- There is no token where no lexeme comes next, or where the longest is a numeral that is too
  large. -/
  fails : text ≠ [] → ((∃ error l', l.next = (.error error, l')) ↔
    (∀ lexeme : Lexeme, lexeme.WellFormed → ¬ lexeme.spelling <+: text) ∨
      ∃ digits, (Lexeme.numeral digits).IsLongest text ∧
        ¬ FitsWord (Lexeme.numeralValue digits.toList))

/-- Every pull of an active lexer takes the longest lexeme after the blanks. -/
theorem next_takes_longest (l : Lexer) (active : l.state = .active) :
    ∃ blanks text, l.PullsLongest blanks text := by
  have hsplits := Text.splits_while Text.isBlank l.rest
  generalize l.rest.takeWhile Text.isBlank = blanks at hsplits
  generalize l.rest.dropWhile Text.isBlank = text at hsplits
  have htakes : text ≠ [] → ∀ token l', l.next = (.ok token, l') ↔
      ∃ lexeme rest, lexeme.IsLongest text ∧ lexeme.InRange ∧ lexeme.spelling ++ rest = text ∧
        token = tokenAt l.tables (l.position.advance blanks) lexeme ∧
        l' = afterLexeme l.tables (l.position.advance blanks) lexeme rest := by
    intro hne token l'
    rw [next_of_splits active hsplits, readToken_eq_ok_iff hne]
    simp only [Lexeme.read_eq_lexeme_iff hsplits.stops, and_assoc]
  refine ⟨blanks, text, hsplits, ?_, htakes, ?_⟩
  · rintro rfl
    rw [next_of_splits active hsplits]
    simp [readToken, Lexeme.read, endAt]
  · intro hne
    rw [← not_exists_isLongest_iff]
    constructor
    · rintro ⟨error, l', herror⟩ ⟨lexeme, hlongest, hrange⟩
      obtain ⟨rest, hrest⟩ := hlongest.starts
      have htoken := (htakes hne _ _).2 ⟨lexeme, rest, hlongest, hrange, hrest, rfl, rfl⟩
      cases herror.symm.trans htoken
    · intro hnone
      rcases hnext : l.next with ⟨error | token, l'⟩
      · exact ⟨error, l', rfl⟩
      · obtain ⟨lexeme, rest, hlongest, hrange, -⟩ := (htakes hne _ _).1 hnext
        exact absurd ⟨lexeme, hlongest, hrange⟩ hnone

/-- A lexer before a text with blanks and a mark of two characters. -/
theorem next_takes_longest_mark :
    (ofString "\n\t <=9").state = .active ∧
      ∃ blanks text, (ofString "\n\t <=9").PullsLongest blanks text :=
  ⟨rfl, next_takes_longest _ rfl⟩

end BlockLang.Lexer
