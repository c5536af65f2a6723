-- SUMMARY: The size kept with a type is the size that follows from what the type is built from.
import BlockLang.Proofs.Scopes.Alike
import BlockLang.Proofs.Scopes.Fields
import Mathlib.Data.List.Basic

namespace BlockLang.Scopes

/-!
# Storage sizes

The size of a type is found once, from the sizes kept with the types it is built from, and kept with
it from then on. `exactSize` finds it anew all the way down. As long as a run spares what is in use,
types are built from older ones, so that `exactSize` comes to an end, and both sizes are the same.
-/

/-- The types whose sizes make up the size of a type that is built like this. A struct needs the type
of every field that has one. -/
def needed (s : Scopes) : TypeDescriptor → List SymbolId
  | .aliasOf base _ => [base]
  | .arrayOf element _ _ => [element]
  | .structOf fields _ => fields.filterMap s.valueType?

/-- The size of `id` is found from the size of `type`. -/
def Needs (s : Scopes) (type id : SymbolId) : Prop :=
  ∃ descriptor, s.descriptor? id = some descriptor ∧ type ∈ s.needed descriptor

/-- The size of a type, whatever sizes are kept. An alias takes what its base takes, an array takes
`count` elements, and a struct takes what the types of its fields take together; a field without a
type takes nothing. Of all other symbols, those of scalar types and universal ones take one unit. -/
def exactSize (s : Scopes) (hs : WellFounded s.Needs) (id : SymbolId) : Nat :=
  match _hdescriptor : s.descriptor? id with
  | some (.aliasOf base _) => s.exactSize hs base
  | some (.arrayOf element count _) => count * s.exactSize hs element
  | some (.structOf fields _) =>
    ((fields.filterMap s.valueType?).attach.map fun type => s.exactSize hs type.1).sum
  | none =>
    match s.symbol? id with
    | some symbol => if symbol.kind = .scalarType ∨ symbol.kind = .universal then 1 else 0
    | none => 0
termination_by hs.wrap id
decreasing_by
  · exact ⟨_, _hdescriptor, List.mem_singleton_self _⟩
  · exact ⟨_, _hdescriptor, List.mem_singleton_self _⟩
  · exact ⟨_, _hdescriptor, type.2⟩

/-! ## One layer of a type -/

/-- The size of a type that is built like this, from the sizes of the types that it needs. -/
def builtSize (s : Scopes) (size : SymbolId → Nat) : TypeDescriptor → Nat
  | .aliasOf base _ => size base
  | .arrayOf element count _ => count * size element
  | .structOf fields _ => ((fields.filterMap s.valueType?).map size).sum

def keptSize (s : Scopes) (id : SymbolId) : Nat :=
  ((s.symbol? id).map Symbol.typeSize).getD 0

theorem keptSize_of_symbol {s : Scopes} {id : SymbolId} {symbol : Symbol}
    (h : s.symbol? id = some symbol) : s.keptSize id = symbol.typeSize := by
  rw [keptSize, h]
  rfl

theorem typeSize_eq {s : Scopes} {id : SymbolId} (hid : s.Declared id) :
    s.typeSize id = .ok (s.keptSize id) := by
  obtain ⟨symbol, hsymbol⟩ := exists_symbol?_of_lt hid
  rw [typeSize, symbol_eq_ok_iff.2 hsymbol, keptSize_of_symbol hsymbol]
  rfl

theorem exactSize_of_descriptor {s : Scopes} (hs : WellFounded s.Needs) {id : SymbolId}
    {descriptor : TypeDescriptor} (h : s.descriptor? id = some descriptor) :
    s.exactSize hs id = s.builtSize (s.exactSize hs) descriptor := by
  rw [exactSize]
  cases descriptor <;> split <;> simp_all [builtSize]

theorem keptSize_of_descriptor {s : Scopes} {id : SymbolId} {descriptor : TypeDescriptor}
    (h : s.descriptor? id = some descriptor) : s.keptSize id = descriptor.size := by
  obtain ⟨symbol, hsymbol, hdescribed⟩ := descriptor?_eq_some_iff.1 h
  rw [keptSize_of_symbol hsymbol, Symbol.typeSize, hdescribed]

/-- What is not described is measured by its kind. -/
theorem exactSize_of_not_described {s : Scopes} (hs : WellFounded s.Needs) {id : SymbolId}
    (h : s.descriptor? id = none) : s.exactSize hs id = s.keptSize id := by
  have hplain : s.exactSize hs id = match s.symbol? id with
      | some symbol => if symbol.kind = .scalarType ∨ symbol.kind = .universal then 1 else 0
      | none => 0 := by
    rw [exactSize]
    split <;> simp_all
  rw [hplain]
  cases hsymbol : s.symbol? id with
  | none =>
    rw [keptSize, hsymbol]
    rfl
  | some symbol =>
    have hdescriptor : symbol.descriptor = none := by simpa [descriptor?, hsymbol] using h
    rw [keptSize_of_symbol hsymbol, Symbol.typeSize, hdescriptor]

theorem builtSize_congr {s : Scopes} {descriptor : TypeDescriptor} {size size' : SymbolId → Nat}
    (h : ∀ type ∈ s.needed descriptor, size type = size' type) :
    s.builtSize size descriptor = s.builtSize size' descriptor := by
  cases descriptor with
  | aliasOf base _ => exact h base (List.mem_singleton_self _)
  | arrayOf element count _ =>
    exact congrArg (count * ·) (h element (List.mem_singleton_self _))
  | structOf fields _ => exact congrArg List.sum (List.map_congr_left h)

theorem uses_of_mem_needed {s : Scopes} {descriptor : TypeDescriptor} {type : SymbolId}
    (h : type ∈ s.needed descriptor) : s.Uses descriptor type := by
  cases descriptor with
  | aliasOf | arrayOf => exact Or.inl h
  | structOf fields _ =>
    obtain ⟨field, hfield, htype⟩ := List.mem_filterMap.1 h
    exact Or.inr ⟨field, hfield, htype⟩

/-! ## Measured types -/

/-- The descriptor of `id` uses older symbols only, and the size kept in it follows from the sizes
that are kept with them. -/
structure Measured (s : Scopes) (id : SymbolId) (descriptor : TypeDescriptor) : Prop where
  older : ∀ used, s.Uses descriptor used → used.index < id.index
  size_eq : descriptor.size = s.builtSize s.keptSize descriptor
  fits : FitsWord descriptor.size

def AllMeasured (s : Scopes) : Prop :=
  ∀ id descriptor, s.descriptor? id = some descriptor → s.Measured id descriptor

/-- A type stays measured as long as the symbols that it uses stay what they are. -/
theorem Measured.congr {s s' : Scopes} {id : SymbolId} {descriptor : TypeDescriptor}
    (h : s.Measured id descriptor)
    (hsame : ∀ used, s.Uses descriptor used → s'.symbol? used = s.symbol? used) :
    s'.Measured id descriptor := by
  have hfields : ∀ field ∈ descriptor.fields, s'.valueType? field = s.valueType? field := by
    intro field hfield
    have hpart : s.Uses descriptor field :=
      Or.inl (TypeDescriptor.mem_parts_of_mem_fields hfield)
    rw [valueType?, valueType?, hsame field hpart]
  have hneeded : s'.builtSize s.keptSize descriptor = s.builtSize s.keptSize descriptor := by
    cases descriptor with
    | aliasOf | arrayOf => rfl
    | structOf fields _ =>
      have htypes : fields.filterMap s'.valueType? = fields.filterMap s.valueType? :=
        List.filterMap_congr hfields
      simp only [builtSize, htypes]
  refine ⟨?_, ?_, h.fits⟩
  · intro used hused
    exact h.older used ((uses_congr hfields used).1 hused)
  · rw [h.size_eq, ← hneeded]
    apply builtSize_congr
    intro type htype
    have hused : s.Uses descriptor type :=
      (uses_congr hfields type).1 (uses_of_mem_needed htype)
    rw [keptSize, keptSize, hsame type hused]

theorem AllMeasured.fits_keptSize {s : Scopes} (hs : s.AllMeasured) (id : SymbolId) :
    FitsWord (s.keptSize id) := by
  cases hsymbol : s.symbol? id with
  | none =>
    rw [keptSize, hsymbol]
    decide
  | some symbol =>
    rw [keptSize_of_symbol hsymbol, Symbol.typeSize]
    split
    · next descriptor hdescriptor =>
      exact (hs id descriptor (descriptor?_eq_some_iff.2 ⟨symbol, hsymbol, hdescriptor⟩)).fits
    · split <;> decide

/-! ## One step -/

/-- What fields take, they take because of the types that they have. -/
theorem sum_eq_of_forall₂_fieldTakes {s : Scopes} {fields : List SymbolId} {sizes : List Nat}
    (h : List.Forall₂ s.FieldTakes fields sizes) :
    sizes.sum = ((fields.filterMap s.valueType?).map s.keptSize).sum ∧
      ∀ type ∈ fields.filterMap s.valueType?, s.Declared type := by
  induction h with
  | nil => simp
  | @cons field size fields sizes htakes _ ih =>
    obtain ⟨hsum, htypes⟩ := ih
    cases htakes with
    | untyped _ htype =>
      rw [List.filterMap_cons_none htype, List.sum_cons, hsum, Nat.zero_add]
      exact ⟨rfl, htypes⟩
    | @typed type _ htype hsize =>
      obtain ⟨symbol, hsymbol, -⟩ := typeSize_eq_ok hsize
      have hdeclared : s.Declared type := symbol?_eq_some_lt hsymbol
      have hkept : s.keptSize type = size := Except.ok.inj ((typeSize_eq hdeclared).symm.trans hsize)
      rw [List.filterMap_cons_some htype, List.map_cons, List.sum_cons, List.sum_cons, hsum, hkept]
      refine ⟨rfl, ?_⟩
      intro other hother
      rcases List.mem_cons.1 hother with rfl | hother
      · exact hdeclared
      · exact htypes other hother

/-- A type that is declared is measured, at the place that it is given. -/
theorem AllMeasured.measured_of_declares {s : Scopes} (hs : s.AllMeasured) {operation : Operation}
    {name : NameId} {symbol : Symbol} (h : s.Declares operation name symbol)
    {descriptor : TypeDescriptor} (hdescriptor : symbol.descriptor = some descriptor) :
    s.Measured ⟨s.symbols.size⟩ descriptor := by
  have hparts := parts_of_declares h hdescriptor
  cases h with
  | undefined | var => cases hdescriptor
  | @aliasOf _ base symbol hbase =>
    cases hdescriptor
    have hkept := keptSize_of_symbol hbase
    refine ⟨?_, hkept.symm, hkept ▸ hs.fits_keptSize base⟩
    rintro used (hpart | ⟨field, hfield, -⟩)
    · exact hparts used hpart
    · cases hfield
  | @arrayOf _ element count symbol helement hfits =>
    cases hdescriptor
    have hkept := keptSize_of_symbol helement
    refine ⟨?_, congrArg (count * ·) hkept.symm, hfits⟩
    rintro used (hpart | ⟨field, hfield, -⟩)
    · exact hparts used hpart
    · cases hfield
  | structOf hsize =>
    cases hdescriptor
    obtain ⟨sizes, htakes, rfl, hfits⟩ := structSize_eq_ok_iff.1 hsize
    obtain ⟨hsum, htypes⟩ := sum_eq_of_forall₂_fieldTakes htakes
    refine ⟨?_, hsum, hfits⟩
    rintro used (hpart | ⟨field, hfield, htype⟩)
    · exact hparts used hpart
    · exact htypes used (List.mem_filterMap.2 ⟨field, hfield, htype⟩)

theorem not_inUse_of_changes {s : Scopes} {operation : Operation} {id : SymbolId}
    {f : Symbol → Symbol} (h : Changes operation id f) (hspares : s.Spares operation) :
    ¬ s.InUse id := by
  cases h with
  | kind | valueType => exact hspares
  | descriptor => cases hspares

theorem descriptor?_add (s : Scopes) (name : NameId) (symbol : Symbol) (id : SymbolId) :
    (s.add name symbol).2.descriptor? id =
      if id.index = s.symbols.size then symbol.descriptor else s.descriptor? id := by
  unfold descriptor?
  rw [symbol?_add]
  split <;> rfl

/-- A change other than a new descriptor describes nothing that was not described like this. -/
theorem descriptor?_of_changes {s : Scopes} {operation : Operation} {target id : SymbolId}
    {f : Symbol → Symbol} (h : Changes operation target f)
    (hop : operation.setsDescriptor = false) {descriptor : TypeDescriptor}
    (hdescriptor : descriptor? { s with symbols := s.symbols.modify target.index f } id =
      some descriptor) : s.descriptor? id = some descriptor := by
  obtain ⟨symbol, hsymbol, hdescribed⟩ := descriptor?_eq_some_iff.1 hdescriptor
  rw [symbol?_modify] at hsymbol
  split at hsymbol
  · obtain ⟨old, hold, rfl⟩ := Option.map_eq_some_iff.1 hsymbol
    rcases descriptor_of_changes h hop old with hnone | hsame
    · rw [hnone] at hdescribed
      cases hdescribed
    · exact descriptor?_eq_some_iff.2 ⟨old, hold, hsame ▸ hdescribed⟩
  · exact descriptor?_eq_some_iff.2 ⟨symbol, hsymbol, hdescribed⟩

theorem setsDescriptor_of_spares {s : Scopes} {operation : Operation} (h : s.Spares operation) :
    operation.setsDescriptor = false := by
  cases operation with
  | setDescriptor => cases h
  | openBlock | closeBlock | define | defineVariable | defineAlias | defineArray | defineStruct
  | setKind | setValueType => rfl

theorem AllMeasured.step {s s' : Scopes} {operation : Operation} {answer : Answer}
    (hspares : s.Spares operation) (hs : s.AllMeasured) (h : s.Step operation answer s') :
    s'.AllMeasured := by
  intro id descriptor hdescriptor
  cases h with
  | openBlock | closeBlock => exact (hs id descriptor hdescriptor).congr fun _ _ => rfl
  | @declare _ name symbol hdeclares =>
    have hmeasured : s.Measured id descriptor ∧ id.index ≤ s.symbols.size := by
      rw [descriptor?_add] at hdescriptor
      split at hdescriptor
      · next hid =>
        have hnew : id = ⟨s.symbols.size⟩ := by rw [← hid]
        exact ⟨hnew ▸ hs.measured_of_declares hdeclares hdescriptor, Nat.le_of_eq hid⟩
      · obtain ⟨old, hold, -⟩ := descriptor?_eq_some_iff.1 hdescriptor
        exact ⟨hs id descriptor hdescriptor, Nat.le_of_lt (symbol?_eq_some_lt hold)⟩
    apply hmeasured.1.congr
    intro used hused
    have holder := hmeasured.1.older used hused
    rw [symbol?_add, if_neg (by omega)]
  | @change _ target f hchanges _ =>
    have hkept := descriptor?_of_changes hchanges (setsDescriptor_of_spares hspares) hdescriptor
    apply (hs id descriptor hkept).congr
    intro used hused
    -- What the type uses is in use, and what is in use is spared.
    have hne : target ≠ used := by
      rintro rfl
      exact not_inUse_of_changes hchanges hspares (inUse_iff_refers.2 ⟨id, descriptor, hkept, hused⟩)
    rw [symbol?_modify, if_neg hne]

/-! ## All steps -/

theorem allMeasured_ofDepth (depth : Nat) : (ofDepth depth).AllMeasured := by
  intro id descriptor hdescriptor
  obtain ⟨symbol, hsymbol, hdescribed⟩ := descriptor?_eq_some_iff.1 hdescriptor
  rw [(plain_of_builtin hsymbol).2] at hdescribed
  cases hdescribed

/-- A run that spares what is in use ends with measured types. -/
theorem allMeasured_afterAll {depth : Nat} {operations : List Operation}
    (hspares : Throughout Spares (ofDepth depth) operations) :
    ((ofDepth depth).afterAll operations).AllMeasured :=
  hspares.afterAll_induction (fun _ _ _ _ hspared hs hstep => hs.step hspared hstep)
    (allMeasured_ofDepth depth)

/-- Sizes are found from those of older types. -/
theorem AllMeasured.wellFounded_needs {s : Scopes} (hs : s.AllMeasured) : WellFounded s.Needs := by
  apply Subrelation.wf _ (measure SymbolId.index).wf
  rintro type id ⟨descriptor, hdescriptor, hneeded⟩
  exact (hs id descriptor hdescriptor).older type (uses_of_mem_needed hneeded)

theorem AllMeasured.exactSize_eq {s : Scopes} (hs : s.AllMeasured) (hneeds : WellFounded s.Needs)
    (id : SymbolId) : s.exactSize hneeds id = s.keptSize id := by
  induction id using hneeds.induction with
  | h id ih =>
    cases hdescriptor : s.descriptor? id with
    | none => exact exactSize_of_not_described hneeds hdescriptor
    | some descriptor =>
      calc s.exactSize hneeds id
        _ = s.builtSize (s.exactSize hneeds) descriptor := exactSize_of_descriptor hneeds hdescriptor
        _ = s.builtSize s.keptSize descriptor :=
          builtSize_congr fun type htype => ih type ⟨descriptor, hdescriptor, htype⟩
        _ = descriptor.size := (hs id descriptor hdescriptor).size_eq.symm
        _ = s.keptSize id := (keptSize_of_descriptor hdescriptor).symm

/-- As long as a run describes no symbol anew and spares what is in use, finding the size of a
declared type all the way down comes to an end, and gives a size that fits in a word and is the one
that is kept. -/
theorem typeSize_eq_exactSize {depth : Nat} {operations : List Operation}
    (hspares : Throughout Spares (ofDepth depth) operations) :
    let s := (ofDepth depth).afterAll operations
    ∃ hneeds : WellFounded s.Needs, ∀ id : SymbolId, s.Declared id →
      FitsWord (s.exactSize hneeds id) ∧ s.typeSize id = .ok (s.exactSize hneeds id) := by
  intro s
  have hs : s.AllMeasured := allMeasured_afterAll hspares
  refine ⟨hs.wellFounded_needs, ?_⟩
  intro id hid
  rw [hs.exactSize_eq]
  exact ⟨hs.fits_keptSize id, typeSize_eq hid⟩

/-- Three structs, each with a field of four integers: the field got its type before it was in use. -/
theorem typeSize_eq_exactSize_structs :
    let operations : List Operation := [.openBlock, .define ⟨0⟩, .setKind ⟨5⟩ .field,
      .defineArray ⟨1⟩ int 4, .setValueType ⟨5⟩ ⟨6⟩, .closeBlock, .defineStruct ⟨2⟩ [⟨5⟩],
      .defineAlias ⟨3⟩ ⟨7⟩, .defineArray ⟨4⟩ ⟨8⟩ 3, .defineVariable ⟨5⟩ ⟨9⟩, .setKind ⟨10⟩ .parameter]
    let s := (ofDepth 2).afterAll operations
    Throughout Spares (ofDepth 2) operations ∧ s.typeSize ⟨9⟩ = .ok 12 ∧
      ∃ hneeds : WellFounded s.Needs, s.exactSize hneeds ⟨9⟩ = 12 := by
  intro operations s
  have hspares : Throughout Spares (ofDepth 2) operations := by decide
  have hkept : s.typeSize ⟨9⟩ = .ok 12 := by rfl
  obtain ⟨hneeds, hsizes⟩ := typeSize_eq_exactSize hspares
  obtain ⟨-, hsize⟩ := hsizes ⟨9⟩ (by decide)
  exact ⟨hspares, hkept, hneeds, Except.ok.inj (hsize.symm.trans hkept)⟩

/-! ## Alike types -/

theorem AllMeasured.layered {s : Scopes} (hs : s.AllMeasured) : s.Layered := by
  intro id symbol descriptor hsymbol hdescribed part hpart
  have hdescriptor := descriptor?_eq_some_iff.2 ⟨symbol, hsymbol, hdescribed⟩
  exact (hs id descriptor hdescriptor).older part (Or.inl hpart)

/-- A type takes as much as its leaf, once for each element of the arrays on the way. -/
theorem AllMeasured.keptSize_of_expands {s : Scopes} (hs : s.AllMeasured) {id leaf : SymbolId}
    {counts : List Nat} (h : s.Expands id counts leaf) :
    s.keptSize id = counts.prod * s.keptSize leaf := by
  induction h with
  | wild | leaf => rw [List.prod_nil, Nat.one_mul]
  | @aliasOf id base leaf counts hlayer _ ih =>
    obtain ⟨size, hdescriptor⟩ := descriptor?_of_layer_aliasOf hlayer
    calc s.keptSize id
      _ = s.keptSize base := by
        rw [keptSize_of_descriptor hdescriptor, (hs id _ hdescriptor).size_eq, builtSize]
      _ = counts.prod * s.keptSize leaf := ih
  | @arrayOf id element leaf count counts hlayer _ ih =>
    obtain ⟨size, hdescriptor⟩ := descriptor?_of_layer_arrayOf hlayer
    calc s.keptSize id
      _ = count * s.keptSize element := by
        rw [keptSize_of_descriptor hdescriptor, (hs id _ hdescriptor).size_eq, builtSize]
      _ = (count :: counts).prod * s.keptSize leaf := by
        rw [ih, List.prod_cons, Nat.mul_assoc]

/-- Universal-free types that are alike have the same expansion, and so take the same storage. -/
theorem AllMeasured.keptSize_eq_of_alike {s : Scopes} (hs : s.AllMeasured) {a b : SymbolId}
    (hfree : s.UniversalFree a) (hfree' : s.UniversalFree b) (h : s.Alike a b) :
    s.keptSize a = s.keptSize b := by
  obtain ⟨counts, leaf, counts', leaf', ha, hb, hagree⟩ := h
  obtain ⟨rfl, rfl⟩ :=
    hagree.eq_of_not_isWild (hfree.not_isWild_leaf ha) (hfree'.not_isWild_leaf hb)
  rw [hs.keptSize_of_expands ha, hs.keptSize_of_expands hb]

/-- As long as a run describes no symbol anew and spares what is in use, declared types that are
equivalent and free of universal ones have the same storage size. -/
theorem typeSize_eq_of_equivalent {depth : Nat} {operations : List Operation}
    (hspares : Throughout Spares (ofDepth depth) operations) :
    let s := (ofDepth depth).afterAll operations
    ∀ a b, s.Declared a → s.Declared b → s.UniversalFree a → s.UniversalFree b →
      s.equivalent a b = .ok true → ∃ size, s.typeSize a = .ok size ∧ s.typeSize b = .ok size := by
  intro s a b ha hb hfree hfree' hequivalent
  have hs : s.AllMeasured := allMeasured_afterAll hspares
  have halike := (hs.layered.equivalent_eq_true_iff ha hb).1 hequivalent
  refine ⟨s.keptSize a, typeSize_eq ha, ?_⟩
  rw [typeSize_eq hb, hs.keptSize_eq_of_alike hfree hfree' halike]

/-- Four rows of three integers take as much as an array of four aliases of such rows. -/
theorem typeSize_eq_of_equivalent_rows :
    let operations : List Operation := [.defineArray ⟨0⟩ int 3, .defineArray ⟨1⟩ ⟨5⟩ 4,
      .defineAlias ⟨2⟩ int, .defineArray ⟨3⟩ ⟨7⟩ 3, .defineAlias ⟨4⟩ ⟨8⟩, .defineArray ⟨5⟩ ⟨9⟩ 4]
    let s := (ofDepth 1).afterAll operations
    s.equivalent ⟨6⟩ ⟨10⟩ = .ok true ∧
      ∃ size, s.typeSize ⟨6⟩ = .ok size ∧ s.typeSize ⟨10⟩ = .ok size := by
  intro operations s
  have hint : s.UniversalFree int := universalFree_of_wraps (by decide) fun inner h => by cases h
  have hrow : s.UniversalFree ⟨5⟩ := hint.of_wraps (by decide) rfl
  have hrows : s.UniversalFree ⟨6⟩ := hrow.of_wraps (by decide) rfl
  have halias : s.UniversalFree ⟨7⟩ := hint.of_wraps (by decide) rfl
  have hrow' : s.UniversalFree ⟨8⟩ := halias.of_wraps (by decide) rfl
  have halias' : s.UniversalFree ⟨9⟩ := hrow'.of_wraps (by decide) rfl
  have hrows' : s.UniversalFree ⟨10⟩ := halias'.of_wraps (by decide) rfl
  have hspares : Throughout Spares (ofDepth 1) operations := by decide
  have hequivalent : s.equivalent ⟨6⟩ ⟨10⟩ = .ok true := by rfl
  exact ⟨hequivalent, typeSize_eq_of_equivalent hspares ⟨6⟩ ⟨10⟩ (by decide) (by decide) hrows hrows'
    hequivalent⟩

end BlockLang.Scopes
