-- SUMMARY: Lexemes: what the words, literals and marks of a text are, and how each is spelled.
import BlockLang.Text.Alphabetic
import BlockLang.Token

namespace BlockLang

/-!
# Lexemes

A lexeme is a word, a numeral, a quoted string or character, a punctuation mark, or a single
character that belongs to none of these.
-/

/-- A lexeme with its payload. -/
inductive Lexeme where
  | keyword (word : Keyword)
  | identifier (name : String)
  | numeral (digits : String)
  | stringLiteral (contents : String)
  | character (c : Char)
  | mark (mark : Punctuation)
  | unknown (c : Char)
deriving DecidableEq, Repr

namespace Lexeme

/-- The characters a lexeme is written with. -/
def spelling : Lexeme → List Char
  | keyword word => word.spelling.toList
  | identifier name => name.toList
  | numeral digits => digits.toList
  | stringLiteral contents => '"' :: contents.toList ++ ['"']
  | character c => ['\'', c, '\'']
  | mark m => m.spelling
  | unknown c => [c]

def kind : Lexeme → Token.Kind
  | keyword word => .keyword word
  | identifier _ => .identifier
  | numeral _ => .numeral
  | stringLiteral _ => .stringLiteral
  | character _ => .character
  | mark m => .mark m
  | unknown c => .unknown c

/-- The lexeme a word spells: a reserved word if it is one, else an identifier. -/
def ofWord (word : String) : Lexeme :=
  match Keyword.ofSpelling? word with
  | some k => .keyword k
  | none => .identifier word

/-- Whether a character may continue a word. -/
def isWordPart (c : Char) : Bool :=
  Text.isAlphabetic c || c.isDigit || c == '_'

/-- The number that decimal digits denote. -/
def numeralValue (digits : List Char) : Nat :=
  Nat.ofDigitChars 10 digits 0

theorem spelling_ofWord (word : String) : (ofWord word).spelling = word.toList := by
  unfold ofWord
  split
  · next k h => rw [spelling, Keyword.ofSpelling?_eq_some_iff.1 h]
  · rfl

end Lexeme

end BlockLang
