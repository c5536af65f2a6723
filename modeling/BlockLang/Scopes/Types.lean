-- SUMMARY: Declaring types in terms of others, and their storage sizes.
import BlockLang.Scopes.Basic

namespace BlockLang.Scopes

/-!
## Declared types

The storage size of a type is found when the type is declared, from the sizes that the types it is
built from have at that time. A type whose size does not fit in a word is not declared.
-/

def typeSize (s : Scopes) (id : SymbolId) : Except Fault Nat :=
  return (← s.symbol id).typeSize

/-- The storage that a field takes: that of its type, or none if it has no type. -/
def fieldSize (s : Scopes) (id : SymbolId) : Except Fault Nat := do
  match (← s.symbol id).valueType with
  | some type => s.typeSize type
  | none => return 0

/-- A size, unless it does not fit in a word. -/
def checkSize (name : NameId) (size : Nat) : Except Fault Nat :=
  if FitsWord size then .ok size else .error (.refused (.typeTooLarge name))

/-- The storage that fields take together. The sum is checked after each field. -/
def structSize (s : Scopes) (name : NameId) (fields : List SymbolId) : Except Fault Nat :=
  fields.foldlM (fun total field => do checkSize name (total + (← s.fieldSize field))) 0

def defineType (s : Scopes) (name : NameId) (descriptor : TypeDescriptor) : SymbolId × Scopes :=
  s.add name { name, kind := descriptor.kind, descriptor }

def defineAlias (s : Scopes) (name : NameId) (base : SymbolId) :
    Except Fault (SymbolId × Scopes) := do
  let size ← s.typeSize base
  return s.defineType name (.aliasOf base size)

def defineArray (s : Scopes) (name : NameId) (element : SymbolId) (count : Nat) :
    Except Fault (SymbolId × Scopes) := do
  let size ← checkSize name (count * (← s.typeSize element))
  return s.defineType name (.arrayOf element count size)

def defineStruct (s : Scopes) (name : NameId) (fields : List SymbolId) :
    Except Fault (SymbolId × Scopes) := do
  let size ← s.structSize name fields
  return s.defineType name (.structOf fields size)

end BlockLang.Scopes
