-- SUMMARY: Which symbols the described types lead to, and runs that leave those symbols alone.
import BlockLang.Proofs.Scopes.Layers
import Mathlib.Logic.Relation

namespace BlockLang

/-!
# Use

A described type uses what it is built from and, if it is a struct, the types of its fields as well:
its size has been found from theirs. A run that gives a symbol a new kind or type only as long as no
described type leads to it changes nothing that a size has been found from.
-/

/-- The fields of a struct type. Other types have none. -/
def TypeDescriptor.fields : TypeDescriptor → List SymbolId
  | aliasOf .. | arrayOf .. => []
  | structOf fields _ => fields

theorem TypeDescriptor.mem_parts_of_mem_fields {descriptor : TypeDescriptor} {field : SymbolId}
    (h : field ∈ descriptor.fields) : field ∈ descriptor.parts := by
  cases descriptor with
  | aliasOf | arrayOf => cases h
  | structOf fields size => exact h

namespace Scopes

/-! ## Types and their parts -/

/-- The symbol was declared at some time, or is built in. -/
abbrev Declared (s : Scopes) (id : SymbolId) : Prop := id.index < s.symbols.size

/-- How the type that the symbol stands for is built. -/
def descriptor? (s : Scopes) (id : SymbolId) : Option TypeDescriptor :=
  (s.symbol? id).bind (·.descriptor)

/-- The type of a variable, parameter, field or function. -/
def valueType? (s : Scopes) (id : SymbolId) : Option SymbolId :=
  (s.symbol? id).bind (·.valueType)

/-- A type that is built like this is built from the symbol, or has a field of that type. -/
def Uses (s : Scopes) (descriptor : TypeDescriptor) (id : SymbolId) : Prop :=
  id ∈ descriptor.parts ∨ ∃ field ∈ descriptor.fields, s.valueType? field = some id

/-- The type is described, and uses the symbol `used`. -/
def Refers (s : Scopes) (id used : SymbolId) : Prop :=
  ∃ descriptor, s.descriptor? id = some descriptor ∧ s.Uses descriptor used

/-- Some described type leads to the symbol, in one step or in many. -/
def InUse (s : Scopes) (id : SymbolId) : Prop :=
  ∃ type, Relation.TransGen s.Refers type id

theorem descriptor?_eq_some_iff {s : Scopes} {id : SymbolId} {descriptor : TypeDescriptor} :
    s.descriptor? id = some descriptor ↔
      ∃ symbol, s.symbol? id = some symbol ∧ symbol.descriptor = some descriptor :=
  Option.bind_eq_some_iff

theorem valueType?_eq_some_iff {s : Scopes} {id type : SymbolId} :
    s.valueType? id = some type ↔
      ∃ symbol, s.symbol? id = some symbol ∧ symbol.valueType = some type :=
  Option.bind_eq_some_iff

/-- The last step to a symbol in use starts from a type that is described itself. -/
theorem inUse_iff_refers {s : Scopes} {id : SymbolId} : s.InUse id ↔ ∃ type, s.Refers type id := by
  constructor
  · rintro ⟨type, hleads⟩
    obtain ⟨last, -, hrefers⟩ := Relation.TransGen.tail'_iff.1 hleads
    exact ⟨last, hrefers⟩
  · rintro ⟨type, hrefers⟩
    exact ⟨type, .single hrefers⟩

theorem inUse_iff_exists_mem {s : Scopes} {id : SymbolId} :
    s.InUse id ↔ ∃ symbol ∈ s.symbols, ∃ descriptor ∈ symbol.descriptor, s.Uses descriptor id := by
  rw [inUse_iff_refers]
  constructor
  · rintro ⟨type, descriptor, hdescriptor, huses⟩
    obtain ⟨symbol, hsymbol, hdescribed⟩ := descriptor?_eq_some_iff.1 hdescriptor
    exact ⟨symbol, Array.mem_of_getElem? hsymbol, descriptor, hdescribed, huses⟩
  · rintro ⟨symbol, hmem, descriptor, hdescribed, huses⟩
    obtain ⟨index, hindex⟩ := Array.mem_iff_getElem?.1 hmem
    exact ⟨⟨index⟩, descriptor, descriptor?_eq_some_iff.2 ⟨symbol, hindex, hdescribed⟩, huses⟩

instance (s : Scopes) (descriptor : TypeDescriptor) (id : SymbolId) :
    Decidable (s.Uses descriptor id) :=
  inferInstanceAs (Decidable (_ ∨ _))

instance (s : Scopes) (id : SymbolId) : Decidable (s.InUse id) :=
  decidable_of_iff _ inUse_iff_exists_mem.symm

/-- What a descriptor uses depends on the types of its fields only. -/
theorem uses_congr {s s' : Scopes} {descriptor : TypeDescriptor}
    (h : ∀ field ∈ descriptor.fields, s'.valueType? field = s.valueType? field) (id : SymbolId) :
    s'.Uses descriptor id ↔ s.Uses descriptor id := by
  unfold Uses
  apply or_congr_right
  constructor
  · rintro ⟨field, hfield, htype⟩
    exact ⟨field, hfield, (h field hfield) ▸ htype⟩
  · rintro ⟨field, hfield, htype⟩
    exact ⟨field, hfield, (h field hfield).symm ▸ htype⟩

/-! ## Runs -/

/-- Every request of the run meets the condition in the scopes that it is made in. -/
def Throughout (P : Scopes → Operation → Prop) : Scopes → List Operation → Prop
  | _, [] => True
  | s, operation :: operations => P s operation ∧ Throughout P (s.after operation) operations

/-- The request describes no symbol anew, and gives no new kind or type to one that is in use. -/
def Spares (s : Scopes) : Operation → Prop
  | .setKind id _ => ¬ s.InUse id
  | .setValueType id _ => ¬ s.InUse id
  | .setDescriptor .. => False
  | _ => True

instance (s : Scopes) : (operation : Operation) → Decidable (s.Spares operation)
  | .setKind id _ | .setValueType id _ => inferInstanceAs (Decidable (¬ s.InUse id))
  | .setDescriptor .. => .isFalse id
  | .openBlock | .closeBlock | .define .. | .defineVariable .. | .defineAlias ..
  | .defineArray .. | .defineStruct .. => .isTrue trivial

instance instDecidableThroughout (P : Scopes → Operation → Prop)
    [∀ s operation, Decidable (P s operation)] :
    (s : Scopes) → (operations : List Operation) → Decidable (Throughout P s operations)
  | _, [] => .isTrue trivial
  | s, operation :: operations =>
    have := instDecidableThroughout P (s.after operation) operations
    inferInstanceAs (Decidable (P s operation ∧ Throughout P (s.after operation) operations))

/-- What every step of a run keeps that meets the condition, the whole run keeps. -/
theorem Throughout.afterAll_induction {P : Scopes → Operation → Prop} {Q : Scopes → Prop}
    (hstep : ∀ s operation answer s', P s operation → Q s → Step s operation answer s' → Q s')
    {s : Scopes} {operations : List Operation} (hrun : Throughout P s operations) (hs : Q s) :
    Q (s.afterAll operations) := by
  induction operations generalizing s with
  | nil => exact hs
  | cons operation operations ih =>
    obtain ⟨hmeets, hrest⟩ := hrun
    apply ih hrest
    rcases s.after_cases operation with hsame | ⟨answer, htaken⟩
    · rwa [hsame]
    · exact hstep s operation answer _ hmeets hs htaken

end Scopes

end BlockLang
