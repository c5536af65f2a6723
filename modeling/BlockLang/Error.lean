-- SUMMARY: All errors that an analysis reports, and their messages.
import BlockLang.Lexer.Basic
import BlockLang.Scopes.Basic

namespace BlockLang

/-!
## Errors

An error is lexical, a refusal of the scopes, or a configuration of no use; or else the text could
not be read in the first place.
-/

/-- Anything that goes wrong in an analysis. -/
inductive Error where
  | lexical (error : LexicalError)
  /-- The text could not be read. -/
  | io (reason : String)
  | scope (error : ScopeError)
  | config (error : ConfigError)
deriving DecidableEq, Repr

/-- The character found, as messages show it. -/
def LexicalFault.showFound : Option Char → String
  | some c => "Some(" ++ Text.quotedChar c ++ ")"
  | none => "None"

def LexicalFault.message : LexicalFault → String
  | .unterminatedString => "unterminated string literal"
  | .expectedClosingQuote => "expected closing quote"
  | .undoubledOperator operator found =>
    "invalid character: `" ++ operator.toString ++ "` must be doubled, found " ++ showFound found
  | .numeralOutOfRange digits => "numeral out of range: " ++ digits

def ScopeError.message : ScopeError → String
  | .overflow maxDepth => "scope overflow: nesting exceeds " ++ toString maxDepth ++ " levels"
  | .underflow => "scope underflow: no block is open"
  | .descriptorRequired kind =>
    kind.name ++ " symbols carry a type descriptor; use set_descriptor"
  | .typeTooLarge name => "size of type #" ++ toString name.index ++ " does not fit in memory"

def ConfigError.reason : ConfigError → String
  | .zeroDepth => "max_depth must be at least 1"
  | .unreadable reason => reason

def ConfigError.message (e : ConfigError) : String :=
  "invalid configuration: " ++ e.reason

namespace Error

def message : Error → String
  | lexical e => e.fault.message
  | io reason => "IO error: " ++ reason
  | scope e => e.message
  | config e => e.message

/-- Where in the text the error is; only lexical errors have a place of their own. -/
def span? : Error → Option Span
  | lexical e => some e.span
  | _ => none

/-- Whether the error keeps the text from being read to its end. -/
def isLexical : Error → Bool
  | lexical _ | io _ => true
  | _ => false

/-- Whether the error comes from the use of scopes. -/
def isScope : Error → Bool
  | scope _ => true
  | _ => false

end Error

end BlockLang
