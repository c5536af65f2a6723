-- SUMMARY: The operators and delimiters of the language.
import BlockLang.Lexeme.Spelling

namespace BlockLang

/-!
## Punctuation marks

A mark is spelled with one or two characters. Where a mark of two characters is written, the mark
that its first character alone would spell is not read.
-/

inductive Punctuation where
  | equals
  | equalEqual
  | not
  | notEqual
  | lessThan
  | lessOrEqual
  | greaterThan
  | greaterOrEqual
  | and
  | or
  | plus
  | plusPlus
  | minus
  | minusMinus
  | times
  | divide
  | dot
  | colon
  | semicolon
  | comma
  | leftSquare
  | rightSquare
  | leftBrace
  | rightBrace
  | leftParenthesis
  | rightParenthesis
deriving DecidableEq, Repr

namespace Punctuation

/-- All marks, operators first. -/
def all : List Punctuation :=
  [equals, equalEqual, not, notEqual, lessThan, lessOrEqual, greaterThan, greaterOrEqual, and, or,
   plus, plusPlus, minus, minusMinus, times, divide, dot, colon, semicolon, comma, leftSquare,
   rightSquare, leftBrace, rightBrace, leftParenthesis, rightParenthesis]

def spelling : Punctuation → List Char
  | equals => ['=']
  | equalEqual => ['=', '=']
  | not => ['!']
  | notEqual => ['!', '=']
  | lessThan => ['<']
  | lessOrEqual => ['<', '=']
  | greaterThan => ['>']
  | greaterOrEqual => ['>', '=']
  | and => ['&', '&']
  | or => ['|', '|']
  | plus => ['+']
  | plusPlus => ['+', '+']
  | minus => ['-']
  | minusMinus => ['-', '-']
  | times => ['*']
  | divide => ['/']
  | dot => ['.']
  | colon => [':']
  | semicolon => [';']
  | comma => [',']
  | leftSquare => ['[']
  | rightSquare => [']']
  | leftBrace => ['{']
  | rightBrace => ['}']
  | leftParenthesis => ['(']
  | rightParenthesis => [')']

/-- The name under which listings show a mark. -/
def name : Punctuation → String
  | equals => "Equals"
  | equalEqual => "EqualEqual"
  | not => "Not"
  | notEqual => "NotEqual"
  | lessThan => "LessThan"
  | lessOrEqual => "LessOrEqual"
  | greaterThan => "GreaterThan"
  | greaterOrEqual => "GreaterOrEqual"
  | and => "And"
  | or => "Or"
  | plus => "Plus"
  | plusPlus => "PlusPlus"
  | minus => "Minus"
  | minusMinus => "MinusMinus"
  | times => "Times"
  | divide => "Divide"
  | dot => "Dot"
  | colon => "Colon"
  | semicolon => "Semicolon"
  | comma => "Comma"
  | leftSquare => "LeftSquare"
  | rightSquare => "RightSquare"
  | leftBrace => "LeftBraces"
  | rightBrace => "RightBraces"
  | leftParenthesis => "LeftParenthesis"
  | rightParenthesis => "RightParenthesis"

def ofSpelling? (text : List Char) : Option Punctuation :=
  findSpelled? all spelling text

/-- Whether a character spells a mark only when it is doubled. -/
def isDoubledOnly (c : Char) : Bool :=
  c == '&' || c == '|'

theorem mem_all (p : Punctuation) : p ∈ all := by
  cases p <;> decide

theorem spelling_injective (p q : Punctuation) (h : p.spelling = q.spelling) : p = q := by
  revert h
  cases p <;> cases q <;> simp [spelling]

theorem ofSpelling?_eq_some_iff {text : List Char} {p : Punctuation} :
    ofSpelling? text = some p ↔ p.spelling = text :=
  findSpelled?_eq_some_iff mem_all spelling_injective

/-- Every mark has at least one character. -/
theorem spelling_ne_nil (p : Punctuation) : p.spelling ≠ [] := by
  cases p <;> simp [spelling]

end Punctuation

end BlockLang
