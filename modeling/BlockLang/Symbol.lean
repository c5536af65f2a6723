-- SUMMARY: Symbols: what a declared name stands for, and how a declared type is built.
import BlockLang.NameTable

namespace BlockLang

/-!
# Symbols

A symbol is a declared name. Symbols refer to one another by identity: an alias to its base, an
array to its elements, a struct to its fields, and a variable to its type.
-/

/-- The identity of a symbol: its position among all symbols ever declared. -/
structure SymbolId where
  index : Nat
deriving DecidableEq, Repr

/-- What a name stands for. -/
inductive Symbol.Kind where
  | var
  | parameter
  | function
  | field
  | arrayType
  | structType
  | aliasType
  | scalarType
  /-- The type that is equivalent to any other. -/
  | universal
  /-- Declared, but not said yet to be what. -/
  | undefined
deriving DecidableEq, Repr

namespace Symbol.Kind

def all : List Kind :=
  [var, parameter, function, field, arrayType, structType, aliasType, scalarType, universal,
   undefined]

/-- The name under which messages show a kind. -/
def name : Kind → String
  | var => "Variable"
  | parameter => "Parameter"
  | function => "Function"
  | field => "Field"
  | arrayType => "ArrayType"
  | structType => "StructType"
  | aliasType => "AliasType"
  | scalarType => "ScalarType"
  | universal => "Universal"
  | undefined => "Undefined"

/-- Whether symbols of this kind carry a type descriptor. -/
def needsDescriptor : Kind → Bool
  | arrayType | structType | aliasType => true
  | _ => false

def isType : Kind → Bool
  | arrayType | structType | aliasType | scalarType | universal => true
  | _ => false

end Symbol.Kind

/-- How a declared type is built from others, with the storage size found when it was declared. -/
inductive TypeDescriptor where
  | aliasOf (base : SymbolId) (size : Nat)
  | arrayOf (element : SymbolId) (count size : Nat)
  /-- The fields come in the order of their declaration. -/
  | structOf (fields : List SymbolId) (size : Nat)
deriving DecidableEq, Repr

namespace TypeDescriptor

/-- The kind of the symbols that carry the descriptor. -/
def kind : TypeDescriptor → Symbol.Kind
  | aliasOf .. => .aliasType
  | arrayOf .. => .arrayType
  | structOf .. => .structType

def size : TypeDescriptor → Nat
  | aliasOf _ size | arrayOf _ _ size | structOf _ size => size

end TypeDescriptor

/-- A declared name, or a built-in type, which has none. -/
structure Symbol where
  name : Option NameId
  kind : Symbol.Kind
  descriptor : Option TypeDescriptor := none
  /-- The type of a variable, parameter or field, or of what a function returns. -/
  valueType : Option SymbolId := none
deriving DecidableEq, Repr

namespace Symbol

def aliasBase? (s : Symbol) : Option SymbolId :=
  match s.descriptor with
  | some (.aliasOf base _) => some base
  | _ => none

/-- The storage size of a type: scalars take one unit, and what is no type takes none. -/
def typeSize (s : Symbol) : Nat :=
  match s.descriptor with
  | some descriptor => descriptor.size
  | none => if s.kind = .scalarType ∨ s.kind = .universal then 1 else 0

end Symbol

end BlockLang
