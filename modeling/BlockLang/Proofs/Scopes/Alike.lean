-- SUMMARY: Laws of type equivalence: types that are free of universal ones can stand for one another.
import BlockLang.Proofs.Scopes.Comparison
import BlockLang.Proofs.Scopes.Use

namespace BlockLang

/-!
# Alike types

Two types are equivalent if their expansions agree. Since a universal type agrees with everything
below it, this is no equivalence relation: an integer and a character are both equivalent to the
universal type. It is one among the types that no universal type can be reached from, and such a
type carries equivalence over from any type to any other.
-/

/-- The type that an alias or an array is built from. -/
def TypeDescriptor.inner? : TypeDescriptor → Option SymbolId
  | aliasOf base _ => some base
  | arrayOf element _ _ => some element
  | structOf .. => none

namespace Scopes

/-- The type is an alias of the type `inner`, or an array of it. -/
def Wraps (s : Scopes) (id inner : SymbolId) : Prop :=
  (s.descriptor? id).bind (·.inner?) = some inner

/-- Neither the type nor any that it leads to through aliases and arrays is universal. -/
def UniversalFree (s : Scopes) (id : SymbolId) : Prop :=
  ∀ inner, Relation.ReflTransGen s.Wraps id inner → ¬ s.IsWild inner

/-- The expansions of the two types agree. -/
def Alike (s : Scopes) (a b : SymbolId) : Prop :=
  ∃ counts leaf counts' leaf', s.Expands a counts leaf ∧ s.Expands b counts' leaf' ∧
    s.Agree counts leaf counts' leaf'

/-! ## Universal-free types -/

instance (s : Scopes) (id : SymbolId) : Decidable (s.IsWild id) :=
  decidable_of_iff _ isWild_iff.symm

theorem universalFree_of_wraps {s : Scopes} {id : SymbolId} (hid : ¬ s.IsWild id)
    (hinner : ∀ inner, s.Wraps id inner → s.UniversalFree inner) : s.UniversalFree id := by
  intro inner hleads
  rcases Relation.ReflTransGen.cases_head hleads with rfl | ⟨next, hwraps, hrest⟩
  · exact hid
  · exact hinner next hwraps inner hrest

/-- An alias of a universal-free type and an array of such are universal-free. -/
theorem UniversalFree.of_wraps {s : Scopes} {id inner : SymbolId} (hinner : s.UniversalFree inner)
    (hid : ¬ s.IsWild id) (hwraps : s.Wraps id inner) : s.UniversalFree id :=
  universalFree_of_wraps hid fun _ hother => Option.some.inj (hwraps.symm.trans hother) ▸ hinner

theorem Layer.exists_aliasOf {symbol : Symbol} {base : SymbolId}
    (h : Layer.ofSymbol symbol = .aliasOf base) :
    ∃ size, symbol.descriptor = some (.aliasOf base size) := by
  unfold Layer.ofSymbol at h
  split at h
  · cases h
  · split at h
    · next size hdescriptor =>
      cases h
      exact ⟨size, hdescriptor⟩
    · cases h
    · cases h

theorem Layer.exists_arrayOf {symbol : Symbol} {element : SymbolId} {count : Nat}
    (h : Layer.ofSymbol symbol = .arrayOf element count) :
    ∃ size, symbol.descriptor = some (.arrayOf element count size) := by
  unfold Layer.ofSymbol at h
  split at h
  · cases h
  · split at h
    · cases h
    · next size hdescriptor =>
      cases h
      exact ⟨size, hdescriptor⟩
    · cases h

theorem exists_symbol?_of_layer_ne_wild {s : Scopes} {id : SymbolId} {layer : Layer}
    (hlayer : s.layer? id = some layer) (hne : layer ≠ .wild) :
    ∃ symbol, s.symbol? id = some symbol ∧ Layer.ofSymbol symbol = layer := by
  apply exists_symbol?_of_layer _ hlayer
  rintro rfl
  exact hne (Option.some.inj hlayer).symm

theorem descriptor?_of_layer_aliasOf {s : Scopes} {id base : SymbolId}
    (h : s.layer? id = some (.aliasOf base)) :
    ∃ size, s.descriptor? id = some (.aliasOf base size) := by
  obtain ⟨symbol, hsymbol, hlayer⟩ := exists_symbol?_of_layer_ne_wild h (by simp)
  obtain ⟨size, hdescriptor⟩ := Layer.exists_aliasOf hlayer
  exact ⟨size, descriptor?_eq_some_iff.2 ⟨symbol, hsymbol, hdescriptor⟩⟩

theorem descriptor?_of_layer_arrayOf {s : Scopes} {id element : SymbolId} {count : Nat}
    (h : s.layer? id = some (.arrayOf element count)) :
    ∃ size, s.descriptor? id = some (.arrayOf element count size) := by
  obtain ⟨symbol, hsymbol, hlayer⟩ := exists_symbol?_of_layer_ne_wild h (by simp)
  obtain ⟨size, hdescriptor⟩ := Layer.exists_arrayOf hlayer
  exact ⟨size, descriptor?_eq_some_iff.2 ⟨symbol, hsymbol, hdescriptor⟩⟩

/-- An expansion leads to its leaf. -/
theorem Expands.leads {s : Scopes} {id leaf : SymbolId} {counts : List Nat}
    (h : s.Expands id counts leaf) : Relation.ReflTransGen s.Wraps id leaf := by
  induction h with
  | wild | leaf => exact .refl
  | aliasOf hlayer _ ih =>
    obtain ⟨size, hdescriptor⟩ := descriptor?_of_layer_aliasOf hlayer
    exact .head (Option.bind_eq_some_iff.2 ⟨_, hdescriptor, rfl⟩) ih
  | arrayOf hlayer _ ih =>
    obtain ⟨size, hdescriptor⟩ := descriptor?_of_layer_arrayOf hlayer
    exact .head (Option.bind_eq_some_iff.2 ⟨_, hdescriptor, rfl⟩) ih

theorem UniversalFree.not_isWild_leaf {s : Scopes} {id leaf : SymbolId} {counts : List Nat}
    (h : s.UniversalFree id) (hexpands : s.Expands id counts leaf) : ¬ s.IsWild leaf :=
  h leaf hexpands.leads

/-! ## Laws of agreement -/

section Agree

variable {s : Scopes} {counts counts' counts'' : List Nat} {leaf leaf' leaf'' : SymbolId}

theorem Agree.symm (h : s.Agree counts leaf counts' leaf') : s.Agree counts' leaf' counts leaf := by
  rcases h with ⟨hcounts, hleaf⟩ | hleft | hright
  · refine Or.inl ⟨hcounts.symm, ?_⟩
    rcases hleaf with hsame | hwild | hwild
    · exact Or.inl hsame.symm
    · exact Or.inr (Or.inr hwild)
    · exact Or.inr (Or.inl hwild)
  · exact Or.inr (Or.inr hleft)
  · exact Or.inr (Or.inl hright)

/-- What agrees with an expansion that is not wild is the same, or is wild from some point on. -/
theorem Agree.cases_of_not_isWild (hleaf : ¬ s.IsWild leaf')
    (h : s.Agree counts leaf counts' leaf') :
    (counts = counts' ∧ leaf = leaf') ∨ (s.IsWild leaf ∧ counts <+: counts') := by
  rcases h with ⟨hcounts, hsame | hwild | hwild⟩ | hleft | ⟨hwild, -⟩
  · exact Or.inl ⟨hcounts, hsame⟩
  · exact Or.inr ⟨hwild, hcounts ▸ List.prefix_rfl⟩
  · exact absurd hwild hleaf
  · exact Or.inr hleft
  · exact absurd hwild hleaf

theorem Agree.eq_of_not_isWild (hleaf : ¬ s.IsWild leaf) (hleaf' : ¬ s.IsWild leaf')
    (h : s.Agree counts leaf counts' leaf') : counts = counts' ∧ leaf = leaf' :=
  (h.cases_of_not_isWild hleaf').resolve_right fun hwild => hleaf hwild.1

/-- An expansion that is not wild leaves no room between two that agree with it. -/
theorem Agree.trans (hleaf : ¬ s.IsWild leaf') (h : s.Agree counts leaf counts' leaf')
    (h' : s.Agree counts' leaf' counts'' leaf'') : s.Agree counts leaf counts'' leaf'' := by
  rcases h.cases_of_not_isWild hleaf with ⟨rfl, rfl⟩ | ⟨hwild, hprefix⟩
  · exact h'
  · rcases h'.symm.cases_of_not_isWild hleaf with ⟨rfl, rfl⟩ | ⟨hwild', hprefix'⟩
    · exact Or.inr (Or.inl ⟨hwild, hprefix⟩)
    -- Both stop on the way down the same counts, so one of them is above the other.
    · rcases List.prefix_or_prefix_of_prefix hprefix hprefix' with habove | habove
      · exact Or.inr (Or.inl ⟨hwild, habove⟩)
      · exact Or.inr (Or.inr ⟨hwild', habove⟩)

end Agree

/-! ## Laws of alike types -/

theorem Alike.symm {s : Scopes} {a b : SymbolId} (h : s.Alike a b) : s.Alike b a := by
  obtain ⟨counts, leaf, counts', leaf', ha, hb, hagree⟩ := h
  exact ⟨counts', leaf', counts, leaf, hb, ha, hagree.symm⟩

theorem Alike.trans {s : Scopes} {a b c : SymbolId} (hfree : s.UniversalFree b)
    (hab : s.Alike a b) (hbc : s.Alike b c) : s.Alike a c := by
  obtain ⟨counts, leaf, counts', leaf', ha, hb, hagree⟩ := hab
  obtain ⟨_, _, counts'', leaf'', hb', hc, hagree'⟩ := hbc
  obtain ⟨rfl, rfl⟩ := hb.unique hb'
  exact ⟨counts, leaf, counts'', leaf'', ha, hc, hagree.trans (hfree.not_isWild_leaf hb) hagree'⟩

section Layered

variable {s : Scopes} {a b c d : SymbolId}

theorem Layered.alike_refl (hs : s.Layered) (ha : s.Declared a) : s.Alike a a := by
  obtain ⟨counts, leaf, hexpands⟩ := hs.exists_expands a ha
  exact ⟨counts, leaf, counts, leaf, hexpands, hexpands, agree_refl⟩

/-- Declared types can be compared, and are equivalent exactly if they are alike. -/
theorem Layered.equivalent_iff_alike (hs : s.Layered) (ha : s.Declared a) (hb : s.Declared b) :
    ∃ answer, s.equivalent a b = .ok answer ∧ (answer = true ↔ s.Alike a b) := by
  obtain ⟨counts, leaf, hleft⟩ := hs.exists_expands a ha
  obtain ⟨counts', leaf', hright⟩ := hs.exists_expands b hb
  obtain ⟨answer, hanswer, hagree⟩ := hs.compareWithin_iff (add_index_lt ha hb) hleft hright
  refine ⟨answer, hanswer, hagree.trans ⟨?_, ?_⟩⟩
  · intro h
    exact ⟨counts, leaf, counts', leaf', hleft, hright, h⟩
  · rintro ⟨_, _, _, _, hleft', hright', h⟩
    obtain ⟨rfl, rfl⟩ := hleft.unique hleft'
    obtain ⟨rfl, rfl⟩ := hright.unique hright'
    exact h

theorem Layered.equivalent_eq_true_iff (hs : s.Layered) (ha : s.Declared a) (hb : s.Declared b) :
    s.equivalent a b = .ok true ↔ s.Alike a b := by
  obtain ⟨answer, hanswer, halike⟩ := hs.equivalent_iff_alike ha hb
  rw [hanswer, ← halike, Except.ok.injEq]

/-- Two comparisons have the same answer if the types are alike in both cases or in neither. -/
theorem Layered.equivalent_congr (hs : s.Layered) (ha : s.Declared a) (hb : s.Declared b)
    (hc : s.Declared c) (hd : s.Declared d) (h : s.Alike a b ↔ s.Alike c d) :
    s.equivalent a b = s.equivalent c d := by
  obtain ⟨answer, hanswer, halike⟩ := hs.equivalent_iff_alike ha hb
  obtain ⟨answer', hanswer', halike'⟩ := hs.equivalent_iff_alike hc hd
  rw [hanswer, hanswer', Bool.eq_iff_iff.2 (halike.trans (h.trans halike'.symm))]

theorem Layered.equivalent_comm (hs : s.Layered) (ha : s.Declared a) (hb : s.Declared b) :
    s.equivalent a b = s.equivalent b a :=
  hs.equivalent_congr ha hb hb ha ⟨Alike.symm, Alike.symm⟩

/-- Universal-free types that are alike answer every further comparison alike. -/
theorem Layered.equivalent_of_alike (hs : s.Layered) (ha : s.Declared a) (hb : s.Declared b)
    (hc : s.Declared c) (hfree : s.UniversalFree a) (hfree' : s.UniversalFree b)
    (h : s.Alike a b) : s.equivalent a c = s.equivalent b c :=
  hs.equivalent_congr ha hc hb hc ⟨h.symm.trans hfree, h.trans hfree'⟩

end Layered

/-- As long as no symbol is given a new descriptor, equivalence of declared types is reflexive and
symmetric, and a universal-free type carries it over between any two. Among universal-free types it
is an equivalence relation, and they can stand for one another in every comparison. -/
theorem equivalent_laws {depth : Nat} {operations : List Operation}
    (hops : ∀ operation ∈ operations, operation.setsDescriptor = false) :
    let s := (ofDepth depth).afterAll operations
    (∀ a, s.Declared a → s.equivalent a a = .ok true) ∧
      (∀ a b, s.Declared a → s.Declared b →
        ∃ answer, s.equivalent a b = .ok answer ∧ s.equivalent b a = .ok answer) ∧
      (∀ a b c, s.Declared a → s.Declared b → s.Declared c → s.UniversalFree b →
        s.equivalent a b = .ok true → s.equivalent b c = .ok true → s.equivalent a c = .ok true) ∧
      Equivalence (fun a b : { id // s.Declared id ∧ s.UniversalFree id } =>
        s.equivalent a b = .ok true) ∧
      (∀ a b c, s.Declared a → s.Declared b → s.Declared c → s.UniversalFree a → s.UniversalFree b →
        s.equivalent a b = .ok true →
          s.equivalent a c = s.equivalent b c ∧ s.equivalent c a = s.equivalent c b) := by
  intro s
  have hs : s.Layered := layered_afterAll hops
  have hrefl : ∀ a, s.Declared a → s.equivalent a a = .ok true :=
    fun a ha => (hs.equivalent_eq_true_iff ha ha).2 (hs.alike_refl ha)
  have htrans : ∀ a b c, s.Declared a → s.Declared b → s.Declared c → s.UniversalFree b →
      s.equivalent a b = .ok true → s.equivalent b c = .ok true → s.equivalent a c = .ok true := by
    intro a b c ha hb hc hfree hab hbc
    rw [hs.equivalent_eq_true_iff ha hb] at hab
    rw [hs.equivalent_eq_true_iff hb hc] at hbc
    exact (hs.equivalent_eq_true_iff ha hc).2 (hab.trans hfree hbc)
  refine ⟨hrefl, ?_, htrans, ⟨?_, ?_, ?_⟩, ?_⟩
  · intro a b ha hb
    obtain ⟨answer, hanswer, -⟩ := hs.equivalent_iff_alike ha hb
    exact ⟨answer, hanswer, (hs.equivalent_comm hb ha).trans hanswer⟩
  · exact fun a => hrefl a a.2.1
  · exact fun {a b} hab => (hs.equivalent_comm b.2.1 a.2.1).trans hab
  · exact fun {a b c} hab hbc => htrans a b c a.2.1 b.2.1 c.2.1 b.2.2 hab hbc
  · intro a b c ha hb hc hfree hfree' hab
    have halike := (hs.equivalent_eq_true_iff ha hb).1 hab
    have hleft := hs.equivalent_of_alike ha hb hc hfree hfree' halike
    exact ⟨hleft, (hs.equivalent_comm hc ha).trans (hleft.trans (hs.equivalent_comm hb hc))⟩

/-- An array of integers carries equivalence over from the array of a universal type to a symbol
that is universal itself. -/
theorem equivalent_laws_arrays :
    let s := (ofDepth 1).afterAll [.defineArray ⟨0⟩ int 3, .defineAlias ⟨1⟩ int,
      .defineArray ⟨2⟩ ⟨6⟩ 3, .defineArray ⟨3⟩ universal 3, .define ⟨4⟩, .setKind ⟨9⟩ .universal]
    s.UniversalFree ⟨5⟩ ∧ s.UniversalFree ⟨7⟩ ∧ s.equivalent ⟨8⟩ ⟨9⟩ = .ok true ∧
      s.equivalent ⟨7⟩ ⟨8⟩ = s.equivalent ⟨5⟩ ⟨8⟩ := by
  intro s
  have hint : s.UniversalFree int := universalFree_of_wraps (by decide) fun inner h => by cases h
  have halias : s.UniversalFree ⟨6⟩ := hint.of_wraps (by decide) rfl
  have hrow : s.UniversalFree ⟨5⟩ := hint.of_wraps (by decide) rfl
  have hrow' : s.UniversalFree ⟨7⟩ := halias.of_wraps (by decide) rfl
  obtain ⟨-, -, htrans, -, hsame⟩ := @equivalent_laws 1 [.defineArray ⟨0⟩ int 3,
    .defineAlias ⟨1⟩ int, .defineArray ⟨2⟩ ⟨6⟩ 3, .defineArray ⟨3⟩ universal 3, .define ⟨4⟩,
    .setKind ⟨9⟩ .universal] (by decide)
  refine ⟨hrow, hrow', ?_, ?_⟩
  · exact htrans ⟨8⟩ ⟨5⟩ ⟨9⟩ (by decide) (by decide) (by decide) hrow rfl rfl
  · exact (hsame ⟨7⟩ ⟨5⟩ ⟨8⟩ (by decide) (by decide) (by decide) hrow' hrow rfl).1

/-- The universal type does not carry equivalence over. -/
example : (ofDepth 1).equivalent int universal = .ok true ∧
    (ofDepth 1).equivalent universal char = .ok true ∧
    (ofDepth 1).equivalent int char = .ok false :=
  ⟨rfl, rfl, rfl⟩

end Scopes

end BlockLang
