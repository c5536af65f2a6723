-- SUMMARY: A symbol has a descriptor exactly if its kind comes with one, and then one of that kind.
import BlockLang.Proofs.Scopes.Failure
import BlockLang.Proofs.Scopes.Use

namespace BlockLang

/-!
# Descriptors

Kinds and descriptors are set by different requests, on any symbol and in any order, the built-in
types included. Each request that goes through sets both so that they match, and so they match in the
scopes that any run ends in: `descriptors_match_kinds`.
-/

open Scopes (IsDescribed)

/-- The symbol has a descriptor exactly if its kind comes with one, and then one of that kind. -/
structure Symbol.WellDescribed (symbol : Symbol) : Prop where
  isSome_iff : symbol.descriptor.isSome ↔ IsDescribed symbol.kind
  kind_eq : ∀ descriptor ∈ symbol.descriptor, symbol.kind = descriptor.kind

theorem TypeDescriptor.isDescribed_kind (descriptor : TypeDescriptor) :
    IsDescribed descriptor.kind := by
  cases descriptor with
  | aliasOf => exact .inr (.inr rfl)
  | arrayOf => exact .inl rfl
  | structOf => exact .inr (.inl rfl)

theorem Symbol.wellDescribed_of_none {symbol : Symbol} (hnone : symbol.descriptor = none)
    (hkind : ¬ IsDescribed symbol.kind) : symbol.WellDescribed where
  isSome_iff := by simp [hnone, hkind]
  kind_eq := by simp [hnone]

theorem Symbol.wellDescribed_of_some {symbol : Symbol} {descriptor : TypeDescriptor}
    (hsome : symbol.descriptor = some descriptor) (hkind : symbol.kind = descriptor.kind) :
    symbol.WellDescribed where
  isSome_iff := by simp [hsome, hkind, descriptor.isDescribed_kind]
  kind_eq := by simp [hsome, hkind]

namespace Scopes

def AllWellDescribed (s : Scopes) : Prop :=
  ∀ id symbol, s.symbol? id = some symbol → symbol.WellDescribed

/-! ## One request -/

theorem wellDescribed_of_declares {s : Scopes} {operation : Operation} {name : NameId}
    {symbol : Symbol} (h : s.Declares operation name symbol) : symbol.WellDescribed := by
  cases h with
  | undefined => exact Symbol.wellDescribed_of_none rfl (by simp [IsDescribed])
  | var => exact Symbol.wellDescribed_of_none rfl (by simp [IsDescribed])
  | aliasOf => exact Symbol.wellDescribed_of_some rfl rfl
  | arrayOf => exact Symbol.wellDescribed_of_some rfl rfl
  | structOf => exact Symbol.wellDescribed_of_some rfl rfl

/-- A new kind comes without a descriptor, and a new descriptor with its kind. A new type touches
neither. -/
theorem Changes.wellDescribed {operation : Operation} {id : SymbolId} {f : Symbol → Symbol}
    (h : Changes operation id f) {symbol : Symbol} (hsymbol : symbol.WellDescribed) :
    (f symbol).WellDescribed := by
  cases h with
  | @kind id kind hplain =>
    apply Symbol.wellDescribed_of_none rfl
    rw [← needsDescriptor_iff]
    simp [hplain]
  | descriptor => exact Symbol.wellDescribed_of_some rfl rfl
  | valueType => exact ⟨hsymbol.isSome_iff, hsymbol.kind_eq⟩

theorem AllWellDescribed.step {s s' : Scopes} {operation : Operation} {answer : Answer}
    (hs : s.AllWellDescribed) (h : s.Step operation answer s') : s'.AllWellDescribed := by
  cases h with
  | openBlock => exact hs
  | closeBlock => exact hs
  | @declare operation name symbol hdeclares =>
    intro id other hother
    rw [symbol?_add] at hother
    split at hother
    · obtain rfl := Option.some.inj hother
      exact wellDescribed_of_declares hdeclares
    · exact hs id other hother
  | @change operation target f hchanges _ =>
    intro id other hother
    rw [symbol?_modify] at hother
    split at hother
    · obtain ⟨old, hold, rfl⟩ := Option.map_eq_some_iff.1 hother
      exact hchanges.wellDescribed (hs id old hold)
    · exact hs id other hother

/-! ## Runs -/

theorem allWellDescribed_ofDepth (depth : Nat) : (ofDepth depth).AllWellDescribed := by
  intro id symbol hsymbol
  obtain ⟨hkind, hnone⟩ := plain_of_builtin hsymbol
  apply Symbol.wellDescribed_of_none hnone
  rw [← needsDescriptor_iff]
  simp [hkind]

theorem AllWellDescribed.afterAll {s : Scopes} (hs : s.AllWellDescribed)
    (operations : List Operation) : (s.afterAll operations).AllWellDescribed :=
  afterAll_induction (fun _ _ _ _ _ hs hstep => AllWellDescribed.step hs hstep) hs

/-- A symbol that is given a new kind has no descriptor any more. -/
theorem descriptor?_of_setKind {s s' : Scopes} {id : SymbolId} {kind : Symbol.Kind}
    (h : s.setKind id kind = .ok s') : s'.descriptor? id = none := by
  unfold setKind at h
  split at h
  · cases h
  · unfold modify at h
    split at h
    · obtain rfl := Except.ok.inj h
      rw [descriptor?, symbol?_modify, if_pos rfl]
      cases s.symbol? id <;> rfl
    · cases h

/-- Whatever is requested, and whether or not it goes through, the symbols with a descriptor are just
those of a kind that comes with one, and the descriptor is of that kind. So a symbol loses its
descriptor when it is given another kind. -/
theorem descriptors_match_kinds {config : Config} {start : Scopes}
    (hstart : create config = .ok start) (operations : List Operation) :
    let s := start.afterAll operations
    (∀ id symbol, s.symbol? id = some symbol → symbol.WellDescribed) ∧
      ∀ id kind s', s.setKind id kind = .ok s' → s'.descriptor? id = none := by
  obtain ⟨-, rfl⟩ := create_eq_ok hstart
  constructor
  · exact (allWellDescribed_ofDepth config.maxDepth).afterAll operations
  · intro id kind s' h
    exact descriptor?_of_setKind h

/-- Two built-in types are described, of which one is given a plain kind again. A descriptor's kind
without the descriptor is refused, and a struct with an undeclared field changes nothing. -/
theorem descriptors_match_kinds_builtins :
    let s := (ofDepth 1).afterAll [.setDescriptor universal (.arrayOf int 3 3),
      .setKind int .structType, .setValueType universal char, .defineStruct ⟨0⟩ [⟨7⟩],
      .setDescriptor int (.aliasOf universal 3), .setKind universal .scalarType]
    let described : Symbol := ⟨none, .aliasType, some (.aliasOf universal 3), none⟩
    let scalar : Symbol := ⟨none, .scalarType, none, some char⟩
    create { maxDepth := 1 } = .ok (ofDepth 1) ∧
      (s.symbol? int = some described ∧ described.WellDescribed) ∧
      (s.symbol? universal = some scalar ∧ scalar.WellDescribed) := by
  intro s described scalar
  have hstart : create { maxDepth := 1 } = .ok (ofDepth 1) := rfl
  obtain ⟨hall, -⟩ := descriptors_match_kinds hstart [.setDescriptor universal (.arrayOf int 3 3),
    .setKind int .structType, .setValueType universal char, .defineStruct ⟨0⟩ [⟨7⟩],
    .setDescriptor int (.aliasOf universal 3), .setKind universal .scalarType]
  have hdescribed : s.symbol? int = some described := by decide
  have hscalar : s.symbol? universal = some scalar := by decide
  exact ⟨hstart, ⟨hdescribed, hall _ _ hdescribed⟩, hscalar, hall _ _ hscalar⟩

end Scopes

end BlockLang
