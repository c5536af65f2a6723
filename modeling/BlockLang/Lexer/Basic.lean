-- SUMMARY: The lexer: pulling tokens off a text one by one.
import BlockLang.Lexeme.Read
import BlockLang.Tables
import BlockLang.Text.Blank

namespace BlockLang

/-!
# The lexer

A lexer holds the text it has not read yet, the place it has reached, and the tables it has filled.
Each pull skips blanks and reads one lexeme. The end of the text is a token of its own. A lexer that
has come to it is finished, and every later pull gives the end of the text again; a lexical error
stops the lexer for good, and every later pull reports it again.
-/

/-- A lexical fault and the characters that were read until it showed. -/
structure LexicalError where
  fault : LexicalFault
  span : Span
deriving DecidableEq, Repr

/-- Whether there may be more to read. -/
inductive Lexer.State where
  | active
  /-- The end of the text has been pulled. -/
  | finished
  /-- An error has stopped the lexer. -/
  | halted (error : LexicalError)
deriving DecidableEq, Repr

/-- A lexer part of the way through a text. -/
structure Lexer where
  /-- The characters not read yet. -/
  rest : List Char
  /-- The place before the first character of `rest`. -/
  position : Position := {}
  tables : Tables := {}
  state : Lexer.State := .active
deriving DecidableEq, Repr

namespace Lexer

/-- What one pull yields. -/
abbrev Item := Except LexicalError Token

/-- Whether a pull yields this item again and again: it is the end of the text or an error. -/
def Item.isLast : Item → Bool
  | .ok token => token.isEnd
  | .error _ => true

def ofString (source : String) : Lexer :=
  { rest := source.toList }

def line (l : Lexer) : Nat := l.position.line

/-! ## One token -/

/-- The token for the end of a text. -/
def endAt (place : Position) : Token :=
  { kind := .endOfInput, span := place.to place }

/-- Read one lexeme off `text`, which starts at `start` and not with a blank. -/
def readToken (tables : Tables) (start : Position) (text : List Char) : Item × Lexer :=
  match Lexeme.read text with
  | .nothing => (.ok (endAt start), ⟨[], start, tables, .finished⟩)
  | .lexeme lexeme rest =>
    let stop := start.advance lexeme.spelling
    let (index, tables) := tables.record lexeme
    (.ok { kind := lexeme.kind, index, span := start.to stop }, ⟨rest, stop, tables, .active⟩)
  | .fault fault consumed rest =>
    let stop := start.advance consumed
    let error := { fault, span := start.to stop : LexicalError }
    (.error error, ⟨rest, stop, tables, .halted error⟩)

def next (l : Lexer) : Item × Lexer :=
  match l.state with
  | .active =>
    let blanks := l.rest.takeWhile Text.isBlank
    readToken l.tables (l.position.advance blanks) (l.rest.dropWhile Text.isBlank)
  | .finished => (.ok (endAt l.position), l)
  | .halted error => (.error error, l)

/-- A token other than the end of the text leaves less to read. -/
theorem length_rest_readToken_lt {tables : Tables} {start : Position} {text : List Char}
    {token : Token} {l : Lexer} (h : readToken tables start text = (.ok token, l))
    (hend : token.isEnd = false) : l.rest.length < text.length := by
  simp only [readToken] at h
  split at h
  · cases Except.ok.inj (Prod.mk.inj h).1
    cases hend
  · next lexeme rest hread =>
    rw [← (Prod.mk.inj h).2]
    exact Lexeme.length_rest_lt_of_read hread
  · cases (Prod.mk.inj h).1

theorem length_rest_next_lt {l l' : Lexer} {token : Token} (h : l.next = (.ok token, l'))
    (hend : token.isEnd = false) : l'.rest.length < l.rest.length := by
  simp only [next] at h
  split at h
  · have hshort := (List.dropWhile_sublist Text.isBlank (l := l.rest)).length_le
    exact Nat.lt_of_lt_of_le (length_rest_readToken_lt h hend) hshort
  · cases Except.ok.inj (Prod.mk.inj h).1
    cases hend
  · cases (Prod.mk.inj h).1

end Lexer

end BlockLang
