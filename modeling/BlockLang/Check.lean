-- SUMMARY: Checking a text: its lexemes and the nesting of its blocks.
import BlockLang.Lexer.Drain
import BlockLang.Report

namespace BlockLang.Check

/-!
# Checking a text

A check follows the braces of a text through nested blocks. It reports the first brace that cannot
be followed, which ends the nesting check; each unknown character before that; the lexical error
that ends the text early; and, where there is none, the blocks that are left open.
-/

/-- The warning about a character outside the alphabet. -/
def unexpectedCharacter (file : String) (token : Token) (c : Char) : Report :=
  .warning "L1001" ("unexpected character " ++ Text.quotedChar c) (token.span.locate file)

/-- The warning about blocks that are still open after the last token. -/
def leftOpen (file : String) (blocks : Nat) (last : Option Token) : Report :=
  .warning "S1001" (toString blocks ++ " block(s) left open at end of input")
    (last.map (·.span.locate file))

/-- How a token changes the open blocks. -/
def changeLevel (s : Scopes) : Token.Kind → Except ScopeError Scopes
  | .mark .leftBrace => s.openBlock
  | .mark .rightBrace => s.closeBlock
  | _ => .ok s

/-- What a token by itself is warned about. -/
def tokenWarnings (file : String) (token : Token) : List Report :=
  match token.kind with
  | .unknown c => [unexpectedCharacter file token c]
  | _ => []

/-- Follow the braces of some tokens, and tell which blocks are open in the end. -/
def nesting (file : String) : Scopes → List Token → List Report × Scopes
  | s, [] => ([], s)
  | s, token :: tokens =>
    match changeLevel s token.kind with
    | .error error => ([.ofErrorAt (.scope error) (token.span.locate file)], s)
    | .ok s =>
      let (reports, s) := nesting file s tokens
      (tokenWarnings file token ++ reports, s)

/-- What is reported about the end of a text. -/
def ending (file : String) (drained : Lexer.Drained) (s : Scopes) : List Report :=
  match drained.failure with
  | some error => [.ofError (.lexical error) file]
  | none =>
    if 0 < s.level then [leftOpen file s.level drained.tokens.getLast?] else []

/-- All reports about a text, with the given blocks open at its start. -/
def reports (file : String) (s : Scopes) (source : String) : List Report :=
  let drained := (Lexer.ofString source).drain
  let (reports, s) := nesting file s drained.tokens
  reports ++ ending file drained s

/-- Whether no report is an error. -/
def isClean (reports : List Report) : Bool :=
  reports.all (·.severity != .error)

end BlockLang.Check
