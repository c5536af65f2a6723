-- SUMMARY: The tables that hold the payloads of tokens: names and literals.
import BlockLang.Lexeme.Basic

namespace BlockLang

/-!
# Tables

A lexer records what its tokens stand for: names in the table of names, and literals as they come,
in one list for each kind. Entries are never removed or changed.
-/

/-! ## Literals -/

/-- The literals met so far. -/
structure LiteralTables where
  numerals : Array Nat := #[]
  strings : Array String := #[]
  characters : Array Char := #[]
deriving DecidableEq, Repr

namespace LiteralTables

def addNumeral (t : LiteralTables) (value : Nat) : Nat × LiteralTables :=
  (t.numerals.size, { t with numerals := t.numerals.push value })

def addString (t : LiteralTables) (contents : String) : Nat × LiteralTables :=
  (t.strings.size, { t with strings := t.strings.push contents })

def addCharacter (t : LiteralTables) (c : Char) : Nat × LiteralTables :=
  (t.characters.size, { t with characters := t.characters.push c })

end LiteralTables

/-! ## Payloads of lexemes -/

structure Tables where
  names : NameTable := {}
  literals : LiteralTables := {}
deriving DecidableEq, Repr

/-- Record the payload of a lexeme and give the index of its entry. Lexemes that are told apart by
their kind alone have no entry. -/
def Tables.record (t : Tables) : Lexeme → Option Nat × Tables
  | .identifier name =>
    let (id, names) := t.names.intern name
    (some id.index, { t with names })
  | .numeral digits =>
    let (index, literals) := t.literals.addNumeral (Lexeme.numeralValue digits.toList)
    (some index, { t with literals })
  | .stringLiteral contents =>
    let (index, literals) := t.literals.addString contents
    (some index, { t with literals })
  | .character c =>
    let (index, literals) := t.literals.addCharacter c
    (some index, { t with literals })
  | .keyword _ | .mark _ | .unknown _ => (none, t)

end BlockLang
