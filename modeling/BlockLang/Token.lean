-- SUMMARY: Tokens: what kind of lexeme was read, where, and which table entry holds its payload.
import BlockLang.Lexeme.Keyword
import BlockLang.Lexeme.Punctuation
import BlockLang.NameTable
import BlockLang.Position
import BlockLang.Text.Quoted

namespace BlockLang

/-!
## Tokens

A token records a lexeme without its text. Names and literals are kept in tables, and the token
carries the index of its entry there.
-/

/-- The kinds of token. -/
inductive Token.Kind where
  | keyword (word : Keyword)
  | identifier
  | numeral
  | stringLiteral
  | character
  | mark (mark : Punctuation)
  /-- The end of the text. -/
  | endOfInput
  /-- A character outside the alphabet of the language. -/
  | unknown (c : Char)
deriving DecidableEq, Repr

namespace Token.Kind

def isKeyword : Kind → Bool
  | keyword _ => true
  | _ => false

/-- Whether tokens of this kind have an entry in one of the literal tables. -/
def isLiteral : Kind → Bool
  | numeral | stringLiteral | character => true
  | _ => false

/-- The name under which listings show a kind. -/
def name : Kind → String
  | keyword word => word.name
  | identifier => "Identifier"
  | numeral => "Numeral"
  | stringLiteral => "StringLiteral"
  | character => "Character"
  | mark m => m.name
  | endOfInput => "Eof"
  | unknown c => "Unknown(" ++ Text.quotedChar c ++ ")"

end Token.Kind

/-- A token of a text. -/
structure Token where
  kind : Token.Kind
  /-- The entry of its payload: in the name table for an identifier, in the literal table of its
  kind for a literal. -/
  index : Option Nat := none
  span : Span := {}
deriving DecidableEq, Repr

namespace Token

def name? (t : Token) : Option NameId :=
  match t.kind with
  | .identifier => t.index.map NameId.mk
  | _ => none

def isEnd (t : Token) : Bool := t.kind == .endOfInput

end Token

end BlockLang
