-- SUMMARY: Listing the tokens of a text, as lines or as JSON.
import BlockLang.Json.Print
import BlockLang.Lexer.Drain
import BlockLang.Text.Lines

namespace BlockLang

/-!
# Listings

A listing has one row for each token: the line it is on, its kind, its table index and its payload.
Strings and characters are quoted, so that no payload breaks a line.
-/

/-- What a listing shows of a token. -/
structure Listing.Row where
  line : Nat
  kind : String
  index : Option Nat
  text : Option String
deriving DecidableEq, Repr

namespace Listing

/-- The payload of a token, looked up by its index and written as text. -/
def payload? (t : Tables) (kind : Token.Kind) (index : Nat) : Option String :=
  match kind with
  | .identifier => t.names.name? ⟨index⟩
  | .numeral => t.literals.numerals[index]?.map toString
  | .stringLiteral => t.literals.strings[index]?.map Text.quotedString
  | .character => t.literals.characters[index]?.map Text.quotedChar
  | _ => none

def Row.ofToken (t : Tables) (token : Token) : Row where
  line := token.span.line
  kind := token.kind.name
  index := token.index
  text := token.index.bind (payload? t token.kind)

/-- A number that ends at the fourth column, if it has no more than four digits. -/
def lineNumber (n : Nat) : String :=
  String.ofList ((toString n).toList.leftpad 4 ' ')

def Row.toLine (r : Row) : String :=
  lineNumber r.line ++ "  " ++ r.kind ++ match r.text with
    | some text => " " ++ text
    | none => ""

def Row.toValue (r : Row) : Json.Value :=
  .ofMembers [("line", .ofNat r.line), ("kind", .ofString r.kind),
    ("index", .ofOption .ofNat r.index), ("text", .ofOption .ofString r.text)]

/-- The rows of the tokens that can be read. -/
def rows (drained : Lexer.Drained) : List Row :=
  drained.tokens.map (Row.ofToken drained.lexer.tables)

def toText (rows : List Row) : String :=
  Text.unlines (rows.map Row.toLine)

def toJson (rows : List Row) : String :=
  (Json.Value.array (rows.map Row.toValue)).pretty

end Listing

end BlockLang
