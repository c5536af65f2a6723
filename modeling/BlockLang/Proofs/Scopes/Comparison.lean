-- SUMMARY: Comparing two types always ends, and decides whether their expansions agree.
import BlockLang.Scopes.Equivalence
import BlockLang.Proofs.Scopes.Expansion

namespace BlockLang.Scopes

/-!
# Comparison

A comparison looks at the outermost layers of two types, which is enough to decide, or to go on
with types at least one of which is older. Whether the expansions agree does not change on the way.
-/

/-- Two expansions agree if they are the same, where a wild leaf matches anything below it. -/
def Agree (s : Scopes) (counts : List Nat) (leaf : SymbolId) (counts' : List Nat)
    (leaf' : SymbolId) : Prop :=
  (counts = counts' ∧ (leaf = leaf' ∨ s.IsWild leaf ∨ s.IsWild leaf')) ∨
    (s.IsWild leaf ∧ counts <+: counts') ∨ (s.IsWild leaf' ∧ counts' <+: counts)

/-! ## Agreement along the layers -/

section Agree

variable {s : Scopes} {counts counts' : List Nat} {leaf leaf' : SymbolId}

theorem agree_refl : s.Agree counts leaf counts leaf :=
  Or.inl ⟨rfl, Or.inl rfl⟩

theorem agree_of_wild_left (h : s.IsWild leaf) : s.Agree [] leaf counts' leaf' :=
  Or.inr (Or.inl ⟨h, List.nil_prefix⟩)

theorem agree_of_wild_right (h : s.IsWild leaf') : s.Agree counts leaf [] leaf' :=
  Or.inr (Or.inr ⟨h, List.nil_prefix⟩)

theorem agree_cons_iff {count count' : Nat} :
    s.Agree (count :: counts) leaf (count' :: counts') leaf' ↔
      count = count' ∧ s.Agree counts leaf counts' leaf' := by
  unfold Agree
  simp only [List.cons.injEq, List.cons_prefix_cons]
  constructor
  · rintro (⟨⟨hcount, hcounts⟩, hleaf⟩ | ⟨hwild, hcount, hcounts⟩ | ⟨hwild, hcount, hcounts⟩)
    · exact ⟨hcount, Or.inl ⟨hcounts, hleaf⟩⟩
    · exact ⟨hcount, Or.inr (Or.inl ⟨hwild, hcounts⟩)⟩
    · exact ⟨hcount.symm, Or.inr (Or.inr ⟨hwild, hcounts⟩)⟩
  · rintro ⟨hcount, ⟨hcounts, hleaf⟩ | ⟨hwild, hcounts⟩ | ⟨hwild, hcounts⟩⟩
    · exact Or.inl ⟨⟨hcount, hcounts⟩, hleaf⟩
    · exact Or.inr (Or.inl ⟨hwild, hcount, hcounts⟩)
    · exact Or.inr (Or.inr ⟨hwild, hcount.symm, hcounts⟩)

theorem not_agree_nil_cons {count : Nat} (h : ¬ s.IsWild leaf) :
    ¬ s.Agree [] leaf (count :: counts') leaf' := by
  rintro (⟨hcounts, -⟩ | ⟨hwild, -⟩ | ⟨-, hcounts⟩)
  · cases hcounts
  · exact h hwild
  · simp at hcounts

theorem not_agree_cons_nil {count : Nat} (h : ¬ s.IsWild leaf') :
    ¬ s.Agree (count :: counts) leaf [] leaf' := by
  rintro (⟨hcounts, -⟩ | ⟨-, hcounts⟩ | ⟨hwild, -⟩)
  · cases hcounts
  · simp at hcounts
  · exact h hwild

theorem not_agree_nil_nil (hne : leaf ≠ leaf') (hleaf : ¬ s.IsWild leaf)
    (hleaf' : ¬ s.IsWild leaf') : ¬ s.Agree [] leaf [] leaf' := by
  rintro (⟨-, hsame | hwild | hwild⟩ | ⟨hwild, -⟩ | ⟨hwild, -⟩)
  · exact hne hsame
  · exact hleaf hwild
  · exact hleaf' hwild
  · exact hleaf hwild
  · exact hleaf' hwild

end Agree

theorem not_isWild_of_leaf {s : Scopes} {id : SymbolId} (hlayer : s.layer? id = some .leaf) :
    ¬ s.IsWild id := by
  rw [isWild_iff, hlayer]
  simp

/-! ## One step -/

/-- What two different types with these outermost layers come down to. -/
def compareLayers (a b : SymbolId) : Layer → Layer → Comparison
  | .wild, _ | _, .wild => .decided true
  | .aliasOf x, .aliasOf y => .compare x y
  | .aliasOf x, _ => .compare x b
  | _, .aliasOf y => .compare a y
  | .arrayOf x m, .arrayOf y n => if m = n then .compare x y else .decided false
  | _, _ => .decided false

@[simp] theorem compareLayers_wild_left (a b : SymbolId) (right : Layer) :
    compareLayers a b .wild right = .decided true := by
  cases right <;> rfl

@[simp] theorem compareLayers_wild_right (a b : SymbolId) (left : Layer) :
    compareLayers a b left .wild = .decided true := by
  cases left <;> rfl

theorem Layer.ofSymbol_eq {symbol : Symbol} (hkind : symbol.kind ≠ .universal) :
    Layer.ofSymbol symbol = match symbol.descriptor with
      | some (.aliasOf base _) => .aliasOf base
      | some (.arrayOf element count _) => .arrayOf element count
      | _ => .leaf :=
  if_neg hkind

theorem exists_symbol?_of_layer {s : Scopes} {id : SymbolId} {layer : Layer}
    (hid : id ≠ universal) (hlayer : s.layer? id = some layer) :
    ∃ symbol, s.symbol? id = some symbol ∧ Layer.ofSymbol symbol = layer := by
  rw [layer?, if_neg hid] at hlayer
  exact Option.map_eq_some_iff.1 hlayer

/-- The layers decide what is done with two symbols neither of which is universal. -/
theorem compareLayers_ofSymbol (a b : SymbolId) {left right : Symbol}
    (hleft : left.kind ≠ .universal) (hright : right.kind ≠ .universal) :
    compareLayers a b (Layer.ofSymbol left) (Layer.ofSymbol right) =
      match left.aliasBase?, right.aliasBase? with
      | some x, some y => .compare x y
      | some x, none => .compare x b
      | none, some y => .compare a y
      | none, none => compareShapes left right := by
  rw [Layer.ofSymbol_eq hleft, Layer.ofSymbol_eq hright]
  unfold Symbol.aliasBase? compareShapes
  rcases left.descriptor with _ | (_ | _ | _) <;>
    rcases right.descriptor with _ | (_ | _ | _) <;> rfl

/-- Comparing two different types looks at their outermost layers only. -/
theorem compareStep_eq {s : Scopes} {a b : SymbolId} {left right : Layer} (hne : a ≠ b)
    (ha : s.layer? a = some left) (hb : s.layer? b = some right) :
    s.compareStep a b = .ok (compareLayers a b left right) := by
  by_cases hwild : a = universal ∨ b = universal
  · have hdecided : compareLayers a b left right = .decided true := by
      rcases hwild with rfl | rfl
      · obtain rfl : Layer.wild = left := Option.some.inj ha
        exact compareLayers_wild_left _ _ _
      · obtain rfl : Layer.wild = right := Option.some.inj hb
        exact compareLayers_wild_right _ _ _
    rw [hdecided, compareStep, if_pos (Or.inr hwild)]
  · obtain ⟨hauniversal, hbuniversal⟩ := not_or.1 hwild
    obtain ⟨l, hl, rfl⟩ := exists_symbol?_of_layer hauniversal ha
    obtain ⟨r, hr, rfl⟩ := exists_symbol?_of_layer hbuniversal hb
    rw [compareStep, if_neg (by simp [hne, hauniversal, hbuniversal]), symbol_eq_ok_iff.2 hl,
      symbol_eq_ok_iff.2 hr]
    simp only [bind, Except.bind]
    by_cases hkind : l.kind = .universal ∨ r.kind = .universal
    · rw [if_pos hkind]
      rcases hkind with hkind | hkind
      · rw [Layer.ofSymbol_eq_wild_iff.2 hkind, compareLayers_wild_left]
        rfl
      · rw [Layer.ofSymbol_eq_wild_iff.2 hkind, compareLayers_wild_right]
        rfl
    · obtain ⟨hlkind, hrkind⟩ := not_or.1 hkind
      rw [if_neg hkind, compareLayers_ofSymbol a b hlkind hrkind]
      cases l.aliasBase? <;> cases r.aliasBase? <;> rfl

/-- What a comparison comes down to for types whose expansions are known: it is decided as they
agree, or goes on with types whose expansions agree alike, one of them older. -/
inductive Comparison.Settles (s : Scopes) (a b : SymbolId) (agree : Prop) : Comparison → Prop
  | decided {equivalent : Bool} (h : equivalent = true ↔ agree) :
      Settles s a b agree (.decided equivalent)
  | compare {x y leaf leaf' : SymbolId} {counts counts' : List Nat}
      (holder : x.index + y.index < a.index + b.index) (hx : s.Expands x counts leaf)
      (hy : s.Expands y counts' leaf') (h : s.Agree counts leaf counts' leaf' ↔ agree) :
      Settles s a b agree (.compare x y)

theorem settles_of_wild_left {s : Scopes} {a b leaf : SymbolId} {counts : List Nat} {right : Layer}
    (hne : a ≠ b) (hleft : s.layer? a = some .wild) (hright : s.layer? b = some right) :
    ∃ comparison, s.compareStep a b = .ok comparison ∧
      comparison.Settles s a b (s.Agree [] a counts leaf) := by
  refine ⟨.decided true, ?_, .decided ?_⟩
  · rw [compareStep_eq hne hleft hright, compareLayers_wild_left]
  · simp [agree_of_wild_left (isWild_iff.2 hleft)]

theorem settles_of_wild_right {s : Scopes} {a b leaf : SymbolId} {counts : List Nat} {left : Layer}
    (hne : a ≠ b) (hleft : s.layer? a = some left) (hright : s.layer? b = some .wild) :
    ∃ comparison, s.compareStep a b = .ok comparison ∧
      comparison.Settles s a b (s.Agree counts leaf [] b) := by
  refine ⟨.decided true, ?_, .decided ?_⟩
  · rw [compareStep_eq hne hleft hright, compareLayers_wild_right]
  · simp [agree_of_wild_right (isWild_iff.2 hright)]

theorem settles_arrays {s : Scopes} {a b x y leaf leaf' : SymbolId} {count count' : Nat}
    {counts counts' : List Nat} (holder : x.index + y.index < a.index + b.index)
    (hx : s.Expands x counts leaf) (hy : s.Expands y counts' leaf') :
    (compareLayers a b (.arrayOf x count) (.arrayOf y count')).Settles s a b
      (s.Agree (count :: counts) leaf (count' :: counts') leaf') := by
  rw [agree_cons_iff]
  by_cases hcount : count = count'
  · have hcompare : compareLayers a b (.arrayOf x count) (.arrayOf y count') = .compare x y :=
      if_pos hcount
    rw [hcompare]
    exact .compare holder hx hy (by simp [hcount])
  · have hdecided : compareLayers a b (.arrayOf x count) (.arrayOf y count') = .decided false :=
      if_neg hcount
    rw [hdecided]
    exact .decided (by simp [hcount])

theorem Layered.compareStep_settles {s : Scopes} (hs : s.Layered) {a b leaf leaf' : SymbolId}
    {counts counts' : List Nat} (ha : s.Expands a counts leaf) (hb : s.Expands b counts' leaf') :
    ∃ comparison, s.compareStep a b = .ok comparison ∧
      comparison.Settles s a b (s.Agree counts leaf counts' leaf') := by
  by_cases hne : a = b
  · subst hne
    obtain ⟨rfl, rfl⟩ := ha.unique hb
    refine ⟨.decided true, ?_, .decided ?_⟩
    · rw [compareStep, if_pos (Or.inl rfl)]
    · simp [agree_refl]
  · cases ha with
    | wild hleft =>
      obtain ⟨right, hright⟩ := hb.exists_layer
      exact settles_of_wild_left hne hleft hright
    | aliasOf hleft hbase =>
      have hlt := hs.lt_of_layer hleft rfl
      cases hb with
      | wild hright => exact settles_of_wild_right hne hleft hright
      | aliasOf hright hbase' =>
        have hlt' := hs.lt_of_layer hright rfl
        exact ⟨_, compareStep_eq hne hleft hright, .compare (by omega) hbase hbase' Iff.rfl⟩
      | arrayOf hright helement' =>
        exact ⟨_, compareStep_eq hne hleft hright,
          .compare (by omega) hbase (.arrayOf hright helement') Iff.rfl⟩
      | leaf hright =>
        exact ⟨_, compareStep_eq hne hleft hright, .compare (by omega) hbase (.leaf hright) Iff.rfl⟩
    | arrayOf hleft helement =>
      have hlt := hs.lt_of_layer hleft rfl
      cases hb with
      | wild hright => exact settles_of_wild_right hne hleft hright
      | aliasOf hright hbase' =>
        have hlt' := hs.lt_of_layer hright rfl
        exact ⟨_, compareStep_eq hne hleft hright,
          .compare (by omega) (.arrayOf hleft helement) hbase' Iff.rfl⟩
      | arrayOf hright helement' =>
        have hlt' := hs.lt_of_layer hright rfl
        exact ⟨_, compareStep_eq hne hleft hright,
          settles_arrays (by omega) helement helement'⟩
      | leaf hright =>
        refine ⟨_, compareStep_eq hne hleft hright, .decided ?_⟩
        simp [not_agree_cons_nil (not_isWild_of_leaf hright)]
    | leaf hleft =>
      cases hb with
      | wild hright => exact settles_of_wild_right hne hleft hright
      | aliasOf hright hbase' =>
        have hlt' := hs.lt_of_layer hright rfl
        exact ⟨_, compareStep_eq hne hleft hright, .compare (by omega) (.leaf hleft) hbase' Iff.rfl⟩
      | arrayOf hright helement' =>
        refine ⟨_, compareStep_eq hne hleft hright, .decided ?_⟩
        simp [not_agree_nil_cons (not_isWild_of_leaf hleft)]
      | leaf hright =>
        refine ⟨_, compareStep_eq hne hleft hright, .decided ?_⟩
        simp [not_agree_nil_nil hne (not_isWild_of_leaf hleft) (not_isWild_of_leaf hright)]

/-! ## All steps -/

theorem Layered.compareWithin_iff {s : Scopes} (hs : s.Layered) {steps : Nat}
    {a b leaf leaf' : SymbolId} {counts counts' : List Nat} (hsteps : a.index + b.index < steps)
    (ha : s.Expands a counts leaf) (hb : s.Expands b counts' leaf') :
    ∃ answer, s.compareWithin steps a b = .ok answer ∧
      (answer = true ↔ s.Agree counts leaf counts' leaf') := by
  induction steps generalizing a b counts counts' leaf leaf' with
  | zero => omega
  | succ steps ih =>
    obtain ⟨comparison, hstep, hsettles⟩ := hs.compareStep_settles ha hb
    cases hsettles with
    | @decided answer hanswer =>
      refine ⟨answer, ?_, hanswer⟩
      rw [compareWithin, hstep]
      rfl
    | @compare x y _ _ _ _ holder hx hy hagree =>
      obtain ⟨answer, hcompare, hanswer⟩ := ih (by omega) hx hy
      refine ⟨answer, ?_, hanswer.trans hagree⟩
      rw [compareWithin, hstep]
      exact hcompare

/-- As many steps as there are pairs of symbols are enough. -/
theorem add_index_lt {a b size : Nat} (ha : a < size) (hb : b < size) :
    a + b < size * size + 1 := by
  rcases Nat.lt_or_ge 1 size with hsize | hsize
  · have htwice : 2 * size ≤ size * size := Nat.mul_le_mul_right size hsize
    omega
  · obtain rfl : size = 1 := by omega
    omega

/-- As long as no symbol is given a new descriptor, every two declared types can be compared, and
are equivalent exactly if their expansions agree. -/
theorem equivalent_iff_agree {depth : Nat} {operations : List Operation}
    (hops : ∀ operation ∈ operations, operation.setsDescriptor = false) {a b : SymbolId}
    (ha : a.index < ((ofDepth depth).afterAll operations).symbols.size)
    (hb : b.index < ((ofDepth depth).afterAll operations).symbols.size) :
    let s := (ofDepth depth).afterAll operations
    ∃ answer, s.equivalent a b = .ok answer ∧
      (∃ counts leaf, s.Expands a counts leaf) ∧ (∃ counts leaf, s.Expands b counts leaf) ∧
      ∀ counts leaf counts' leaf', s.Expands a counts leaf → s.Expands b counts' leaf' →
        (answer = true ↔ s.Agree counts leaf counts' leaf') := by
  intro s
  have hs : s.Layered := layered_afterAll hops
  obtain ⟨counts, leaf, hexpands⟩ := hs.exists_expands a ha
  obtain ⟨counts', leaf', hexpands'⟩ := hs.exists_expands b hb
  obtain ⟨answer, hanswer, hagree⟩ :=
    hs.compareWithin_iff (add_index_lt ha hb) hexpands hexpands'
  refine ⟨answer, hanswer, ⟨counts, leaf, hexpands⟩, ⟨counts', leaf', hexpands'⟩, ?_⟩
  intro cs l ds m hcs hds
  obtain ⟨rfl, rfl⟩ := hexpands.unique hcs
  obtain ⟨rfl, rfl⟩ := hexpands'.unique hds
  exact hagree

/-- Three rows of two integers are equivalent to an alias of three elements of any type. -/
theorem equivalent_iff_agree_rows :
    let s := (ofDepth 1).afterAll [.defineArray ⟨0⟩ int 2, .defineArray ⟨1⟩ ⟨5⟩ 3,
      .defineArray ⟨2⟩ universal 3, .defineAlias ⟨3⟩ ⟨7⟩]
    s.equivalent ⟨6⟩ ⟨8⟩ = .ok true ∧ ∀ counts leaf counts' leaf', s.Expands ⟨6⟩ counts leaf →
      s.Expands ⟨8⟩ counts' leaf' → s.Agree counts leaf counts' leaf' := by
  intro s
  have htrue : s.equivalent ⟨6⟩ ⟨8⟩ = .ok true := rfl
  obtain ⟨answer, hanswer, -, -, hagree⟩ := @equivalent_iff_agree 1
    [.defineArray ⟨0⟩ int 2, .defineArray ⟨1⟩ ⟨5⟩ 3, .defineArray ⟨2⟩ universal 3,
      .defineAlias ⟨3⟩ ⟨7⟩] (by decide) ⟨6⟩ ⟨8⟩ (by decide) (by decide)
  obtain rfl : answer = true := Except.ok.inj (hanswer.symm.trans htrue)
  refine ⟨htrue, ?_⟩
  intro counts leaf counts' leaf' hleft hright
  exact (hagree counts leaf counts' leaf' hleft hright).1 rfl

end BlockLang.Scopes
