-- SUMMARY: Nested blocks: opening, closing, declaring names in them, and finding names from inside.
import BlockLang.Config
import BlockLang.Symbol
import BlockLang.Word

namespace BlockLang

/-!
# Scopes

`Scopes` holds every symbol ever declared and, for each open block, the declarations made in it.
Closing a block forgets its declarations but keeps its symbols, so that types built from them stay
meaningful.

An operation that does not go through gives a fault and no new state: the state it was tried in
simply goes on.
-/

/-- A refusal, which leaves everything as it was. -/
inductive ScopeError where
  /-- As many levels are open as may be. -/
  | overflow (maxDepth : Nat)
  /-- There is no block to close. -/
  | underflow
  /-- A kind was to be set that comes with a type descriptor only. -/
  | descriptorRequired (kind : Symbol.Kind)
  /-- The size of a type does not fit in a word. -/
  | typeTooLarge (name : NameId)
deriving DecidableEq, Repr

/-! ## One level -/

/-- The declarations made directly in one open block. -/
structure Level where
  /-- The symbols declared, in the order of their declaration. -/
  symbols : List SymbolId := []
  /-- The latest symbol of each name. -/
  latest : Dictionary NameId SymbolId := {}
deriving DecidableEq, Repr

namespace Level

def declare (l : Level) (name : NameId) (symbol : SymbolId) : Level :=
  { symbols := l.symbols ++ [symbol], latest := l.latest.insert name symbol }

/-- The latest declaration of a name. -/
def find? (l : Level) (name : NameId) : Option SymbolId :=
  l.latest.get? name

@[simp]
theorem find?_empty (name : NameId) : ({} : Level).find? name = none :=
  rfl

@[simp]
theorem symbols_declare (l : Level) (name : NameId) (symbol : SymbolId) :
    (l.declare name symbol).symbols = l.symbols ++ [symbol] :=
  rfl

theorem find?_declare (l : Level) (name : NameId) (symbol : SymbolId) (other : NameId) :
    (l.declare name symbol).find? other = if other = name then some symbol else l.find? other :=
  l.latest.get?_insert name symbol other

end Level

/-! ## All levels -/

/-- The symbols declared so far and the levels that are open. -/
structure Scopes where
  /-- Every symbol ever declared, in order. -/
  symbols : Array Symbol
  /-- The innermost open level. -/
  current : Level := {}
  /-- The levels around it, from the inside out. -/
  enclosing : List Level := []
  /-- The number of levels that may be open at once. -/
  maxDepth : Nat
deriving DecidableEq, Repr

namespace Scopes

/-- Why an operation does not go through. -/
inductive Fault where
  /-- The operation is refused. -/
  | refused (error : ScopeError)
  /-- A symbol is referred to that was never declared. -/
  | undeclared (symbol : SymbolId)
  /-- Comparing two types never ends, since one of them is part of itself. -/
  | endless (a b : SymbolId)
deriving DecidableEq, Repr

/-- The built-in types, which are there before any declaration. -/
def builtins : Array Symbol :=
  #[⟨none, .scalarType, none, none⟩, ⟨none, .scalarType, none, none⟩,
    ⟨none, .scalarType, none, none⟩, ⟨none, .scalarType, none, none⟩,
    ⟨none, .universal, none, none⟩]

def int : SymbolId := ⟨0⟩

def char : SymbolId := ⟨1⟩

def bool : SymbolId := ⟨2⟩

def string : SymbolId := ⟨3⟩

/-- The type that is equivalent to any other. -/
def universal : SymbolId := ⟨4⟩

/-- Only the outermost level is open and only the built-in types are there. -/
def ofDepth (maxDepth : Nat) : Scopes :=
  { symbols := builtins, maxDepth }

def create (config : Config) : Except ConfigError Scopes :=
  config.validate.map fun _ => ofDepth config.maxDepth

def depth (s : Scopes) : Nat := s.enclosing.length + 1

/-- The number of the innermost open level; the outermost one is zero. -/
def level (s : Scopes) : Nat := s.enclosing.length

/-- The open levels, from the inside out. -/
def levels (s : Scopes) : List Level := s.current :: s.enclosing

/-- Open a block inside the current one. -/
def openBlock (s : Scopes) : Except ScopeError Scopes :=
  if s.depth < s.maxDepth then
    .ok { s with current := {}, enclosing := s.current :: s.enclosing }
  else .error (.overflow s.maxDepth)

/-- Close the current block. Its declarations can no longer be found. -/
def closeBlock (s : Scopes) : Except ScopeError Scopes :=
  match s.enclosing with
  | [] => .error .underflow
  | outer :: rest => .ok { s with current := outer, enclosing := rest }

/-! ## Names -/

/-- Add a symbol with a name to the current block. Earlier symbols of that name are kept and
shadowed. -/
def add (s : Scopes) (name : NameId) (symbol : Symbol) : SymbolId × Scopes :=
  let id : SymbolId := ⟨s.symbols.size⟩
  (id, { s with symbols := s.symbols.push symbol, current := s.current.declare name id })

/-- Declare a name in the current block, without saying yet what it stands for. -/
def define (s : Scopes) (name : NameId) : SymbolId × Scopes :=
  s.add name { name, kind := .undefined }

def defineVariable (s : Scopes) (name : NameId) (type : SymbolId) : SymbolId × Scopes :=
  s.add name { name, kind := .var, valueType := type }

/-- The latest declaration of a name in the current block. -/
def findLocal? (s : Scopes) (name : NameId) : Option SymbolId :=
  s.current.find? name

/-- The latest declaration of a name in the nearest block around the current one that has any. -/
def findEnclosing? (s : Scopes) (name : NameId) : Option SymbolId :=
  s.enclosing.findSome? (·.find? name)

/-- What a name refers to: the current block goes before the blocks around it. -/
def resolve? (s : Scopes) (name : NameId) : Option SymbolId :=
  s.findLocal? name <|> s.findEnclosing? name

/-! ## Symbols -/

def symbol? (s : Scopes) (id : SymbolId) : Option Symbol :=
  s.symbols[id.index]?

/-- The symbol with a given identity, or a fault where there is none. -/
def symbol (s : Scopes) (id : SymbolId) : Except Fault Symbol :=
  match s.symbol? id with
  | some symbol => .ok symbol
  | none => .error (.undeclared id)

def modify (s : Scopes) (id : SymbolId) (f : Symbol → Symbol) : Except Fault Scopes :=
  if id.index < s.symbols.size then
    .ok { s with symbols := s.symbols.modify id.index f }
  else .error (.undeclared id)

/-- Say what a symbol stands for. A kind that comes with a descriptor is refused, and a descriptor
that the symbol had is dropped. -/
def setKind (s : Scopes) (id : SymbolId) (kind : Symbol.Kind) : Except Fault Scopes :=
  if kind.needsDescriptor then .error (.refused (.descriptorRequired kind))
  else s.modify id fun symbol => { symbol with kind, descriptor := none }

/-- Describe the type that a symbol stands for. -/
def setDescriptor (s : Scopes) (id : SymbolId) (descriptor : TypeDescriptor) :
    Except Fault Scopes :=
  s.modify id fun symbol => { symbol with kind := descriptor.kind, descriptor }

/-- Give a variable, parameter, field or function its type, which is not looked at. -/
def setValueType (s : Scopes) (id type : SymbolId) : Except Fault Scopes :=
  s.modify id fun symbol => { symbol with valueType := type }

end Scopes

end BlockLang
