-- SUMMARY: The table of names: each different name has one number.
import BlockLang.Dictionary

namespace BlockLang

/-!
# The table of names

Each different name gets one number, in order of first appearance. Names are never removed or
changed, so a number stays good for as long as the table lives. The number of a name is looked up in
a dictionary, and the name behind a number in the list of names.
-/

/-- The number that stands for an interned name. -/
structure NameId where
  index : Nat
deriving DecidableEq, Repr

structure NameTable where
  /-- The number of each name. -/
  ids : Dictionary String NameId := {}
  /-- The name of each number. -/
  names : Array String := #[]
deriving DecidableEq, Repr

namespace NameTable

/-- The number of a name, if it has been met. -/
def find? (t : NameTable) (text : String) : Option NameId :=
  t.ids.get? text

/-- The name behind a number. -/
def name? (t : NameTable) (id : NameId) : Option String :=
  t.names[id.index]?

def size (t : NameTable) : Nat := t.names.size

def isEmpty (t : NameTable) : Bool := t.names.isEmpty

/-- Give a new name the next number. -/
def add (t : NameTable) (text : String) : NameTable :=
  { ids := t.ids.insert text ⟨t.size⟩, names := t.names.push text }

/-- The number of a name, which is added if it is new. -/
def intern (t : NameTable) (text : String) : NameId × NameTable :=
  match t.find? text with
  | some id => (id, t)
  | none => (⟨t.size⟩, t.add text)

theorem find?_add (t : NameTable) (text other : String) :
    (t.add text).find? other = if other = text then some ⟨t.size⟩ else t.find? other :=
  t.ids.get?_insert text ⟨t.size⟩ other

theorem name?_add (t : NameTable) (text : String) (id : NameId) :
    (t.add text).name? id = if id.index = t.size then some text else t.name? id :=
  Array.getElem?_push

end NameTable

end BlockLang
