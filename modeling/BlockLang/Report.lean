-- SUMMARY: Reports: errors and warnings with a code and a place in a file.
import BlockLang.Error
import BlockLang.Text.Lines

namespace BlockLang

/-!
# Reports

A report is what a reader of the text is told: a code that never changes its meaning, a message, and
the place in the file.
-/

/-- How bad it is: only an error makes a text faulty. -/
inductive Severity where
  | error
  | warning
deriving DecidableEq, Repr

/-- A run of characters in a file. -/
structure Location where
  file : String
  line : Nat
  start : Nat
  stop : Nat
deriving DecidableEq, Repr

/-- The place of a span in a file. -/
def Span.locate (s : Span) (file : String) : Location :=
  { file, line := s.line, start := s.start, stop := s.stop }

/-- What a reader is told. -/
structure Report where
  code : String
  severity : Severity
  message : String
  location : Option Location
deriving DecidableEq, Repr

/-- The code of an error: `L` for lexical errors, `S` for scopes and `C` for configurations. -/
def Error.code : Error → String
  | lexical ⟨.unterminatedString, _⟩ => "L0001"
  | lexical ⟨.expectedClosingQuote, _⟩ => "L0002"
  | lexical ⟨.undoubledOperator .., _⟩ => "L0003"
  | lexical ⟨.numeralOutOfRange _, _⟩ => "L0004"
  | io _ => "L0005"
  | scope (.overflow _) => "S0001"
  | scope .underflow => "S0002"
  | scope (.descriptorRequired _) => "S0003"
  | scope (.typeTooLarge _) => "S0004"
  | config _ => "C0001"

namespace Report

/-- The report of an error, with the place that the error has of its own. -/
def ofError (error : Error) (file : String) : Report where
  code := error.code
  severity := .error
  message := error.message
  location := error.span?.map (·.locate file)

/-- The report of an error at a place that the error does not know itself. -/
def ofErrorAt (error : Error) (location : Location) : Report where
  code := error.code
  severity := .error
  message := error.message
  location := some location

def warning (code message : String) (location : Option Location) : Report :=
  { code, severity := .warning, message, location }

def line (r : Report) : String :=
  let tag := match r.severity with
    | .error => "error"
    | .warning => "warning"
  let place := match r.location with
    | some l => l.file ++ ":" ++ toString l.line ++ ": "
    | none => ""
  tag ++ "[" ++ r.code ++ "]: " ++ place ++ r.message

def listToText (reports : List Report) : String :=
  Text.unlines (reports.map line)

end Report

end BlockLang
