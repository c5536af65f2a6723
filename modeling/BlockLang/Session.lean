-- SUMMARY: A text and its scopes side by side: declaring and resolving the names of a text.
import BlockLang.Lexer.Drain
import BlockLang.Scopes.Basic
import BlockLang.Source

namespace BlockLang

/-!
# Sessions

A session holds a lexer and scopes that share the numbers of names. `Session.drive` reads a text to
its end and follows its blocks and variable declarations: braces open and close blocks, the first
identifier after `var` is declared as an integer variable, and any other identifier is looked up.
-/

/-- A text part of the way through, and the scopes of what has been read. -/
structure Session where
  lexer : Lexer
  scopes : Scopes
deriving DecidableEq, Repr

/-- What a token of a text gives rise to. -/
inductive Event where
  /-- A block was opened or closed, and this level is now the innermost. -/
  | level (level : Nat)
  /-- A block could not be opened or closed. -/
  | refused (error : ScopeError)
  /-- A name was declared. -/
  | declared (name : String) (symbol : SymbolId)
  /-- A name was used, which refers to a symbol or to nothing. -/
  | used (name : String) (symbol : Option SymbolId)
  /-- The text cannot be read further. -/
  | failed (error : LexicalError)
deriving DecidableEq, Repr

namespace Session

def create (source : String) (config : Config) : Except ConfigError Session :=
  (Scopes.create config).map fun scopes => { lexer := .ofString source, scopes }

/-- A session at the start of a source. The configuration is checked before the source is read. -/
def ofSource (source : Source) (config : Config) : Except Error Session := do
  let scopes ← (Scopes.create config).mapError .config
  return { lexer := .ofString (← source.text), scopes }

/-- What a name refers to: the current block goes before the blocks around it. -/
def resolve? (s : Session) (name : NameId) : Option SymbolId :=
  s.scopes.resolve? name

/-! ## Following the blocks and declarations of a text -/

/-- How far the tokens of a text have been followed. -/
structure Progress where
  scopes : Scopes
  /-- Whether the next identifier is declared. -/
  declaring : Bool := false
  /-- What happened so far, the latest first. -/
  events : List Event := []

namespace Progress

def record (p : Progress) (event : Event) : Progress :=
  { p with events := event :: p.events }

/-- Open or close a block. A refusal is recorded and changes nothing. -/
def changeLevel (p : Progress) (change : Scopes → Except ScopeError Scopes) : Progress :=
  match change p.scopes with
  | .ok scopes => { p with scopes }.record (.level scopes.level)
  | .error error => p.record (.refused error)

/-- Declare an identifier if one is due to be declared, and look it up otherwise. -/
def identifier (p : Progress) (id : NameId) (text : String) : Progress :=
  if p.declaring then
    let (symbol, scopes) := p.scopes.defineVariable id Scopes.int
    { p with scopes, declaring := false }.record (.declared text symbol)
  else p.record (.used text (p.scopes.resolve? id))

def step (names : NameTable) (p : Progress) (token : Token) : Progress :=
  match token.kind with
  | .keyword .var => { p with declaring := true }
  | .mark .leftBrace => p.changeLevel Scopes.openBlock
  | .mark .rightBrace => p.changeLevel Scopes.closeBlock
  | _ =>
    match token.name? with
    | some id => p.identifier id ((names.name? id).getD "")
    | none => p

end Progress

/-- Read the text to its end or to the first error, and tell what happens on the way. -/
def drive (s : Session) : List Event × Session :=
  let drained := s.lexer.drain
  let names := drained.lexer.tables.names
  let progress := drained.tokens.foldl (Progress.step names) { scopes := s.scopes }
  (progress.events.reverse ++ drained.failure.toList.map .failed,
    { lexer := drained.lexer, scopes := progress.scopes })

end Session

end BlockLang
