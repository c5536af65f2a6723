-- SUMMARY: The operations on scopes as data, and what a list of them does.
import BlockLang.Scopes.Types

namespace BlockLang.Scopes

/-!
## Operations

An operation is a request to change the scopes. One that does not go through changes nothing, and
those after it are carried out all the same.
-/

/-- A request to change the scopes. -/
inductive Operation where
  | openBlock
  | closeBlock
  | define (name : NameId)
  | defineVariable (name : NameId) (type : SymbolId)
  | defineAlias (name : NameId) (base : SymbolId)
  | defineArray (name : NameId) (element : SymbolId) (count : Nat)
  | defineStruct (name : NameId) (fields : List SymbolId)
  | setKind (symbol : SymbolId) (kind : Symbol.Kind)
  | setDescriptor (symbol : SymbolId) (descriptor : TypeDescriptor)
  | setValueType (symbol type : SymbolId)
deriving DecidableEq, Repr

/-- What a request that goes through is answered with. -/
inductive Answer where
  /-- The level that is now the innermost. -/
  | level (level : Nat)
  /-- The symbol declared. -/
  | symbol (id : SymbolId)
  | done
deriving DecidableEq, Repr

/-- Carry out a request that goes through. -/
def perform (s : Scopes) : Operation → Except Fault (Answer × Scopes)
  | .openBlock => (s.openBlock.map fun s => (.level s.level, s)).mapError .refused
  | .closeBlock => (s.closeBlock.map fun s => (.level s.level, s)).mapError .refused
  | .define name => .ok ((s.define name).map .symbol id)
  | .defineVariable name type => .ok ((s.defineVariable name type).map .symbol id)
  | .defineAlias name base => (s.defineAlias name base).map (Prod.map .symbol id)
  | .defineArray name element count =>
    (s.defineArray name element count).map (Prod.map .symbol id)
  | .defineStruct name fields => (s.defineStruct name fields).map (Prod.map .symbol id)
  | .setKind symbol kind => (s.setKind symbol kind).map (.done, ·)
  | .setDescriptor symbol descriptor => (s.setDescriptor symbol descriptor).map (.done, ·)
  | .setValueType symbol type => (s.setValueType symbol type).map (.done, ·)

/-- The scopes after a request, whether or not it goes through. -/
def after (s : Scopes) (operation : Operation) : Scopes :=
  match s.perform operation with
  | .ok (_, s) => s
  | .error _ => s

/-- The scopes after a list of requests. -/
def afterAll (s : Scopes) (operations : List Operation) : Scopes :=
  operations.foldl after s

end BlockLang.Scopes
