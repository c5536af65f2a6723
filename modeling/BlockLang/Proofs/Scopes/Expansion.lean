-- SUMMARY: The closed form of a type: the counts of its arrays and the type they end at.
import BlockLang.Proofs.Scopes.Layers

namespace BlockLang.Scopes

/-!
# Expansion

Dropping aliases and going from arrays to their elements leads from every type to a last one, which
is universal or no longer built from a single other type. In a layered state this comes to an end,
and there is only one way to go.
-/

/-- The outermost layer of a type. -/
inductive Layer where
  /-- The universal type, or a symbol that has been made one. -/
  | wild
  | aliasOf (base : SymbolId)
  | arrayOf (element : SymbolId) (count : Nat)
  | leaf
deriving DecidableEq, Repr

def Layer.inner? : Layer → Option SymbolId
  | aliasOf base => some base
  | arrayOf element _ => some element
  | wild | leaf => none

/-- The outermost layer of a type that is described by its symbol. -/
def Layer.ofSymbol (symbol : Symbol) : Layer :=
  if symbol.kind = .universal then .wild
  else match symbol.descriptor with
    | some (.aliasOf base _) => .aliasOf base
    | some (.arrayOf element count _) => .arrayOf element count
    | _ => .leaf

def layer? (s : Scopes) (id : SymbolId) : Option Layer :=
  if id = universal then some .wild else (s.symbol? id).map Layer.ofSymbol

/-- The type is equivalent to every type. -/
def IsWild (s : Scopes) (id : SymbolId) : Prop :=
  id = universal ∨ ∃ symbol, s.symbol? id = some symbol ∧ symbol.kind = .universal

/-- Through aliases and arrays of these counts, from the outside in, the type leads to `leaf`. -/
inductive Expands (s : Scopes) : SymbolId → (counts : List Nat) → (leaf : SymbolId) → Prop
  | wild {id : SymbolId} (hlayer : s.layer? id = some .wild) : Expands s id [] id
  | leaf {id : SymbolId} (hlayer : s.layer? id = some .leaf) : Expands s id [] id
  | aliasOf {id base leaf : SymbolId} {counts : List Nat}
      (hlayer : s.layer? id = some (.aliasOf base)) (hbase : Expands s base counts leaf) :
      Expands s id counts leaf
  | arrayOf {id element leaf : SymbolId} {count : Nat} {counts : List Nat}
      (hlayer : s.layer? id = some (.arrayOf element count))
      (helement : Expands s element counts leaf) : Expands s id (count :: counts) leaf

/-! ## Layers -/

theorem exists_layer {s : Scopes} {id : SymbolId} (hid : id.index < s.symbols.size) :
    ∃ layer, s.layer? id = some layer := by
  obtain ⟨symbol, hsymbol⟩ := exists_symbol?_of_lt hid
  unfold layer?
  split
  · exact ⟨.wild, rfl⟩
  · exact ⟨Layer.ofSymbol symbol, by rw [hsymbol]; rfl⟩

theorem Layer.ofSymbol_eq_wild_iff {symbol : Symbol} :
    Layer.ofSymbol symbol = .wild ↔ symbol.kind = .universal := by
  unfold Layer.ofSymbol
  split
  · next hkind => simp [hkind]
  · next hkind =>
    simp only [hkind, iff_false]
    split <;> simp

theorem isWild_iff {s : Scopes} {id : SymbolId} : s.IsWild id ↔ s.layer? id = some .wild := by
  unfold IsWild layer?
  by_cases hid : id = universal
  · simp [hid]
  · simp [hid, Layer.ofSymbol_eq_wild_iff]

/-- The type under a layer is one of the parts that the descriptor names. -/
theorem mem_parts_of_inner {symbol : Symbol} {inner : SymbolId}
    (h : (Layer.ofSymbol symbol).inner? = some inner) :
    ∃ descriptor, symbol.descriptor = some descriptor ∧ inner ∈ descriptor.parts := by
  unfold Layer.ofSymbol at h
  split at h
  · cases h
  · split at h
    · next base size hdescriptor =>
      obtain rfl := Option.some.inj h
      exact ⟨_, hdescriptor, List.mem_singleton_self _⟩
    · next element count size hdescriptor =>
      obtain rfl := Option.some.inj h
      exact ⟨_, hdescriptor, List.mem_singleton_self _⟩
    · cases h

/-- Going under a layer leads to an older type. -/
theorem Layered.lt_of_layer {s : Scopes} (hs : s.Layered) {id inner : SymbolId} {layer : Layer}
    (hlayer : s.layer? id = some layer) (hinner : layer.inner? = some inner) :
    inner.index < id.index := by
  unfold layer? at hlayer
  split at hlayer
  · obtain rfl := Option.some.inj hlayer
    cases hinner
  · obtain ⟨symbol, hsymbol, rfl⟩ := Option.map_eq_some_iff.1 hlayer
    obtain ⟨descriptor, hdescriptor, hpart⟩ := mem_parts_of_inner hinner
    exact hs id symbol descriptor hsymbol hdescriptor inner hpart

/-! ## There is exactly one expansion -/

theorem Layered.exists_expands {s : Scopes} (hs : s.Layered) (id : SymbolId)
    (hid : id.index < s.symbols.size) : ∃ counts leaf, s.Expands id counts leaf := by
  -- The type under a layer is older, so the position of the type decreases.
  induction hindex : id.index using Nat.strongRecOn generalizing id with
  | ind index ih =>
    obtain ⟨layer, hlayer⟩ := exists_layer hid
    cases layer with
    | wild => exact ⟨[], id, .wild hlayer⟩
    | leaf => exact ⟨[], id, .leaf hlayer⟩
    | aliasOf base =>
      have hlt := hs.lt_of_layer hlayer rfl
      obtain ⟨counts, leaf, hbase⟩ := ih base.index (hindex ▸ hlt) base (Nat.lt_trans hlt hid) rfl
      exact ⟨counts, leaf, .aliasOf hlayer hbase⟩
    | arrayOf element count =>
      have hlt := hs.lt_of_layer hlayer rfl
      obtain ⟨counts, leaf, helement⟩ :=
        ih element.index (hindex ▸ hlt) element (Nat.lt_trans hlt hid) rfl
      exact ⟨count :: counts, leaf, .arrayOf hlayer helement⟩

theorem Expands.exists_layer {s : Scopes} {id leaf : SymbolId} {counts : List Nat}
    (h : s.Expands id counts leaf) : ∃ layer, s.layer? id = some layer := by
  cases h with
  | wild hlayer | leaf hlayer | aliasOf hlayer | arrayOf hlayer => exact ⟨_, hlayer⟩

theorem Expands.unique {s : Scopes} {id leaf leaf' : SymbolId} {counts counts' : List Nat}
    (h : s.Expands id counts leaf) (h' : s.Expands id counts' leaf') :
    counts = counts' ∧ leaf = leaf' := by
  induction h generalizing counts' with
  | wild hlayer =>
    cases h' with
    | wild => exact ⟨rfl, rfl⟩
    | leaf hother | aliasOf hother | arrayOf hother => simp [hlayer] at hother
  | leaf hlayer =>
    cases h' with
    | leaf => exact ⟨rfl, rfl⟩
    | wild hother | aliasOf hother | arrayOf hother => simp [hlayer] at hother
  | aliasOf hlayer _ ih =>
    cases h' with
    | aliasOf hother hbase =>
      simp only [hlayer, Option.some.injEq, Layer.aliasOf.injEq] at hother
      subst hother
      exact ih hbase
    | wild hother | leaf hother | arrayOf hother => simp [hlayer] at hother
  | arrayOf hlayer _ ih =>
    cases h' with
    | arrayOf hother helement =>
      simp only [hlayer, Option.some.injEq, Layer.arrayOf.injEq] at hother
      obtain ⟨rfl, rfl⟩ := hother
      obtain ⟨rfl, rfl⟩ := ih helement
      exact ⟨rfl, rfl⟩
    | wild hother | leaf hother | aliasOf hother => simp [hlayer] at hother

end BlockLang.Scopes
