-- SUMMARY: What the fields of a struct take together, and at which field finding it out stops.
import BlockLang.Proofs.Scopes.Use
import Mathlib.Algebra.GroupWithZero.Nat
import Mathlib.Data.List.Forall2

namespace BlockLang.Scopes

/-!
# Fields

The fields of a struct are measured in order, and their sum is checked after each of them. Either
all fields are declared, as are their types, and the sum fits in a word; or the first field at which
this is not so says what is wrong.
-/

/-! ## Sizes that are not found -/

theorem symbol_eq_error_iff {s : Scopes} {id : SymbolId} {fault : Fault} :
    s.symbol id = .error fault ↔ s.symbols.size ≤ id.index ∧ fault = .undeclared id := by
  rw [← Array.getElem?_eq_none_iff, ← symbol?, symbol]
  cases s.symbol? id with
  | none => simp [eq_comm]
  | some symbol => simp

theorem typeSize_eq_error_iff {s : Scopes} {id : SymbolId} {fault : Fault} :
    s.typeSize id = .error fault ↔ s.symbols.size ≤ id.index ∧ fault = .undeclared id := by
  rw [typeSize, Except.bind_eq_error_iff, symbol_eq_error_iff]
  simp [pure, Except.pure]

theorem checkSize_eq_error_iff {name : NameId} {size : Nat} {fault : Fault} :
    checkSize name size = .error fault ↔
      ¬ FitsWord size ∧ fault = .refused (.typeTooLarge name) := by
  unfold checkSize
  split <;> simp [*, eq_comm]

/-! ## One field -/

/-- The field is declared and takes this much storage: what its type takes, or nothing if it has no
type. -/
inductive FieldTakes (s : Scopes) (field : SymbolId) : Nat → Prop
  | untyped (hfield : field.index < s.symbols.size) (htype : s.valueType? field = none) :
      FieldTakes s field 0
  | typed {type : SymbolId} {size : Nat} (htype : s.valueType? field = some type)
      (hsize : s.typeSize type = .ok size) : FieldTakes s field size

/-- The symbol was never declared, and is the field or its type. -/
inductive FieldLacks (s : Scopes) (field : SymbolId) : SymbolId → Prop
  | field (hfield : s.symbols.size ≤ field.index) : FieldLacks s field field
  | type {type : SymbolId} (htype : s.valueType? field = some type)
      (hmissing : s.symbols.size ≤ type.index) : FieldLacks s field type

/-- Measuring stops at the field, where those before it take `total`. -/
inductive FieldStops (s : Scopes) (name : NameId) (total : Nat) (field : SymbolId) : Fault → Prop
  | undeclared {missing : SymbolId} (hlacks : s.FieldLacks field missing) :
      FieldStops s name total field (.undeclared missing)
  | tooLarge {size : Nat} (htakes : s.FieldTakes field size) (hlarge : ¬ FitsWord (total + size)) :
      FieldStops s name total field (.refused (.typeTooLarge name))

theorem fieldSize_of_symbol {s : Scopes} {field : SymbolId} {symbol : Symbol}
    (h : s.symbol? field = some symbol) : s.fieldSize field =
      match s.valueType? field with
      | some type => s.typeSize type
      | none => .ok 0 := by
  rw [fieldSize, symbol_eq_ok_iff.2 h, valueType?, h]
  rfl

theorem fieldSize_eq_ok_iff {s : Scopes} {field : SymbolId} {size : Nat} :
    s.fieldSize field = .ok size ↔ s.FieldTakes field size := by
  constructor
  · intro h
    obtain ⟨symbol, hsymbol⟩ := exists_symbol?_of_lt (fieldSize_eq_ok_lt h)
    rw [fieldSize_of_symbol hsymbol] at h
    split at h
    · next type htype => exact .typed htype h
    · next htype =>
      obtain rfl := Except.ok.inj h
      exact .untyped (symbol?_eq_some_lt hsymbol) htype
  · intro h
    cases h with
    | untyped hfield htype =>
      obtain ⟨symbol, hsymbol⟩ := exists_symbol?_of_lt hfield
      rw [fieldSize_of_symbol hsymbol, htype]
    | typed htype hsize =>
      obtain ⟨symbol, hsymbol, -⟩ := valueType?_eq_some_iff.1 htype
      rw [fieldSize_of_symbol hsymbol, htype]
      exact hsize

theorem fieldSize_eq_error_iff {s : Scopes} {field : SymbolId} {fault : Fault} :
    s.fieldSize field = .error fault ↔
      ∃ missing, s.FieldLacks field missing ∧ fault = .undeclared missing := by
  constructor
  · intro h
    cases hsymbol : s.symbol? field with
    | none =>
      have hmissing := Array.getElem?_eq_none_iff.1 hsymbol
      rw [fieldSize, symbol_eq_error_iff.2 ⟨hmissing, rfl⟩] at h
      exact ⟨field, .field hmissing, (Except.error.inj h).symm⟩
    | some symbol =>
      rw [fieldSize_of_symbol hsymbol] at h
      split at h
      · next type htype =>
        obtain ⟨hmissing, rfl⟩ := typeSize_eq_error_iff.1 h
        exact ⟨type, .type htype hmissing, rfl⟩
      · cases h
  · rintro ⟨missing, hlacks, rfl⟩
    cases hlacks with
    | field hfield =>
      rw [fieldSize, symbol_eq_error_iff.2 ⟨hfield, rfl⟩]
      rfl
    | type htype hmissing =>
      obtain ⟨symbol, hsymbol, -⟩ := valueType?_eq_some_iff.1 htype
      rw [fieldSize_of_symbol hsymbol, htype]
      exact typeSize_eq_error_iff.2 ⟨hmissing, rfl⟩

/-! ## All fields -/

def addField (s : Scopes) (name : NameId) (total : Nat) (field : SymbolId) : Except Fault Nat := do
  checkSize name (total + (← s.fieldSize field))

theorem structSize_eq_foldlM (s : Scopes) (name : NameId) (fields : List SymbolId) :
    s.structSize name fields = fields.foldlM (s.addField name) 0 :=
  rfl

theorem addField_eq_ok_iff {s : Scopes} {name : NameId} {total total' : Nat} {field : SymbolId} :
    s.addField name total field = .ok total' ↔
      ∃ size, s.FieldTakes field size ∧ total' = total + size ∧ FitsWord total' := by
  constructor
  · intro h
    obtain ⟨size, hsize, hcheck⟩ := Except.bind_eq_ok_iff.1 h
    obtain ⟨rfl, hfits⟩ := checkSize_eq_ok hcheck
    exact ⟨size, fieldSize_eq_ok_iff.1 hsize, rfl, hfits⟩
  · rintro ⟨size, htakes, rfl, hfits⟩
    rw [addField, fieldSize_eq_ok_iff.2 htakes]
    exact if_pos hfits

theorem addField_eq_error_iff {s : Scopes} {name : NameId} {total : Nat} {field : SymbolId}
    {fault : Fault} :
    s.addField name total field = .error fault ↔ s.FieldStops name total field fault := by
  rw [addField, Except.bind_eq_error_iff, fieldSize_eq_error_iff]
  constructor
  · rintro (⟨missing, hlacks, rfl⟩ | ⟨size, hsize, hcheck⟩)
    · exact .undeclared hlacks
    · obtain ⟨hlarge, rfl⟩ := checkSize_eq_error_iff.1 hcheck
      exact .tooLarge (fieldSize_eq_ok_iff.1 hsize) hlarge
  · intro h
    cases h with
    | undeclared hlacks => exact Or.inl ⟨_, hlacks, rfl⟩
    | tooLarge htakes hlarge =>
      exact Or.inr ⟨_, fieldSize_eq_ok_iff.2 htakes, checkSize_eq_error_iff.2 ⟨hlarge, rfl⟩⟩

/-- Since sums only grow, checking the sum after every field comes to checking the last one. -/
theorem foldlM_addField_eq_ok_iff {s : Scopes} {name : NameId} {fields : List SymbolId}
    {total total' : Nat} (htotal : FitsWord total) :
    fields.foldlM (s.addField name) total = .ok total' ↔
      ∃ sizes, List.Forall₂ s.FieldTakes fields sizes ∧ total' = total + sizes.sum ∧
        FitsWord total' := by
  induction fields generalizing total with
  | nil =>
    constructor
    · intro h
      obtain rfl := Except.ok.inj h
      exact ⟨[], .nil, rfl, htotal⟩
    · rintro ⟨sizes, hsizes, rfl, -⟩
      cases hsizes
      rfl
  | cons field fields ih =>
    rw [List.foldlM_cons]
    constructor
    · intro h
      obtain ⟨next, hnext, hrest⟩ := Except.bind_eq_ok_iff.1 h
      obtain ⟨size, htakes, rfl, hfits⟩ := addField_eq_ok_iff.1 hnext
      obtain ⟨sizes, hsizes, rfl, hlast⟩ := (ih hfits).1 hrest
      refine ⟨size :: sizes, .cons htakes hsizes, ?_, hlast⟩
      rw [List.sum_cons, Nat.add_assoc]
    · rintro ⟨sizes, hsizes, rfl, hlast⟩
      cases hsizes with
      | @cons _ size _ sizes htakes hsizes =>
        have hsum : total + (size :: sizes).sum = total + size + sizes.sum := by
          rw [List.sum_cons, Nat.add_assoc]
        have hfits : FitsWord (total + size) :=
          Nat.lt_of_le_of_lt (hsum ▸ Nat.le_add_right _ _) hlast
        rw [addField_eq_ok_iff.2 ⟨size, htakes, rfl, hfits⟩]
        exact (ih hfits).2 ⟨sizes, hsizes, hsum, hlast⟩

/-- A struct is as large as its fields together. -/
theorem structSize_eq_ok_iff {s : Scopes} {name : NameId} {fields : List SymbolId} {size : Nat} :
    s.structSize name fields = .ok size ↔
      ∃ sizes, List.Forall₂ s.FieldTakes fields sizes ∧ size = sizes.sum ∧ FitsWord size := by
  rw [structSize_eq_foldlM, foldlM_addField_eq_ok_iff (by decide)]
  simp only [Nat.zero_add]

/-- A struct has no size because of the first of its fields that cannot be added to those before. -/
theorem structSize_eq_error_iff {s : Scopes} {name : NameId} {fields : List SymbolId}
    {fault : Fault} :
    s.structSize name fields = .error fault ↔
      ∃ before field after sizes, fields = before ++ field :: after ∧
        List.Forall₂ s.FieldTakes before sizes ∧ FitsWord sizes.sum ∧
        s.FieldStops name sizes.sum field fault := by
  rw [structSize_eq_foldlM, Except.foldlM_eq_error_iff]
  constructor
  · rintro ⟨before, field, after, total, rfl, hbefore, hstops⟩
    obtain ⟨sizes, hsizes, rfl, hfits⟩ := structSize_eq_ok_iff.1 hbefore
    exact ⟨before, field, after, sizes, rfl, hsizes, hfits, addField_eq_error_iff.1 hstops⟩
  · rintro ⟨before, field, after, sizes, rfl, hsizes, hfits, hstops⟩
    exact ⟨before, field, after, sizes.sum, rfl,
      structSize_eq_ok_iff.2 ⟨sizes, hsizes, rfl, hfits⟩, addField_eq_error_iff.2 hstops⟩

end BlockLang.Scopes
