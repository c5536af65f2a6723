-- SUMMARY: Types are built from types that were declared before them.
import BlockLang.Proofs.Scopes.Step

namespace BlockLang

/-!
# Layers

As long as no symbol is given a descriptor after its declaration, every type is built from symbols
older than itself. Going from a type to its parts therefore comes to an end.
-/

/-- The symbols that a type is directly built from. -/
def TypeDescriptor.parts : TypeDescriptor → List SymbolId
  | aliasOf base _ => [base]
  | arrayOf element _ _ => [element]
  | structOf fields _ => fields

namespace Scopes

/-- Whether the request gives a declared symbol a new descriptor. -/
def Operation.setsDescriptor : Operation → Bool
  | .setDescriptor .. => true
  | _ => false

/-- Every type is built from older symbols. -/
def Layered (s : Scopes) : Prop :=
  ∀ id symbol descriptor, s.symbol? id = some symbol → symbol.descriptor = some descriptor →
    ∀ part ∈ descriptor.parts, part.index < id.index

theorem fieldSize_eq_ok_lt {s : Scopes} {field : SymbolId} {size : Nat}
    (h : s.fieldSize field = .ok size) : field.index < s.symbols.size := by
  obtain ⟨symbol, hsymbol, -⟩ := Except.bind_eq_ok_iff.1 h
  exact symbol?_eq_some_lt (symbol_eq_ok_iff.1 hsymbol)

/-- The fields of a struct that has a size are declared. -/
theorem lt_of_structSize {s : Scopes} {name : NameId} {fields : List SymbolId} {size : Nat}
    (h : s.structSize name fields = .ok size) : ∀ field ∈ fields, field.index < s.symbols.size := by
  unfold structSize at h
  generalize 0 = total at h
  induction fields generalizing total with
  | nil => simp
  | cons field fields ih =>
    rw [List.foldlM_cons] at h
    obtain ⟨total', htotal, hrest⟩ := Except.bind_eq_ok_iff.1 h
    obtain ⟨fieldSize, hfield, -⟩ := Except.bind_eq_ok_iff.1 htotal
    intro other hother
    rcases List.mem_cons.1 hother with rfl | hother
    · exact fieldSize_eq_ok_lt hfield
    · exact ih total' hrest other hother

theorem parts_of_declares {s : Scopes} {operation : Operation} {name : NameId} {symbol : Symbol}
    (h : s.Declares operation name symbol) {descriptor : TypeDescriptor}
    (hdescriptor : symbol.descriptor = some descriptor) :
    ∀ part ∈ descriptor.parts, part.index < s.symbols.size := by
  cases h with
  | undefined => cases hdescriptor
  | var => cases hdescriptor
  | aliasOf hbase =>
    cases hdescriptor
    simpa [TypeDescriptor.parts] using symbol?_eq_some_lt hbase
  | arrayOf helement hfits =>
    cases hdescriptor
    simpa [TypeDescriptor.parts] using symbol?_eq_some_lt helement
  | structOf hsize =>
    cases hdescriptor
    exact lt_of_structSize hsize

/-- A change other than a new descriptor keeps the descriptor or drops it. -/
theorem descriptor_of_changes {operation : Operation} {id : SymbolId} {f : Symbol → Symbol}
    (h : Changes operation id f) (hop : operation.setsDescriptor = false) (symbol : Symbol) :
    (f symbol).descriptor = none ∨ (f symbol).descriptor = symbol.descriptor := by
  cases h with
  | kind => exact Or.inl rfl
  | descriptor => cases hop
  | valueType => exact Or.inr rfl

theorem layered_step {s s' : Scopes} {operation : Operation} {answer : Answer}
    (hop : operation.setsDescriptor = false) (hs : s.Layered)
    (h : s.Step operation answer s') : s'.Layered := by
  cases h with
  | openBlock => exact hs
  | closeBlock => exact hs
  | @declare operation name symbol hdeclares =>
    intro id other descriptor hother hdescriptor
    rw [symbol?_add] at hother
    split at hother
    · next hid =>
      obtain rfl := Option.some.inj hother
      rw [hid]
      exact parts_of_declares hdeclares hdescriptor
    · exact hs id other descriptor hother hdescriptor
  | @change operation target f hchanges _ =>
    intro id other descriptor hother hdescriptor
    rw [symbol?_modify] at hother
    split at hother
    · obtain ⟨old, hold, rfl⟩ := Option.map_eq_some_iff.1 hother
      rcases descriptor_of_changes hchanges hop old with hnone | hsame
      · rw [hnone] at hdescriptor
        cases hdescriptor
      · exact hs id old descriptor hold (hsame ▸ hdescriptor)
    · exact hs id other descriptor hother hdescriptor

theorem layered_ofDepth (depth : Nat) : (ofDepth depth).Layered := by
  intro id symbol descriptor hsymbol hdescriptor
  rw [(plain_of_builtin hsymbol).2] at hdescriptor
  cases hdescriptor

/-- Without new descriptors, every run ends in layers. -/
theorem layered_afterAll {depth : Nat} {operations : List Operation}
    (hops : ∀ operation ∈ operations, operation.setsDescriptor = false) :
    ((ofDepth depth).afterAll operations).Layered := by
  apply afterAll_induction _ (layered_ofDepth depth)
  intro operation hmem s answer s' hs hstep
  exact layered_step (hops operation hmem) hs hstep

end Scopes

end BlockLang
