-- SUMMARY: When a request does not go through, for which reason, and that it then leaves no trace.
import BlockLang.Proofs.Scopes.Change
import BlockLang.Proofs.Scopes.Fields

namespace BlockLang.Scopes

/-!
# Failure

`Fails` lists every reason for which a request does not go through. In the scopes that a run ends in
each of them is given exactly if it applies, and then nothing has changed. The requests that do go
through account for the levels that are open.
-/

/-- The kind comes with a descriptor only. -/
def IsDescribed (kind : Symbol.Kind) : Prop :=
  kind = .arrayType ∨ kind = .structType ∨ kind = .aliasType

/-- The request does not go through, for this reason. -/
inductive Fails (s : Scopes) : Operation → Fault → Prop
  /-- As many levels are open as may be. -/
  | openBlock (hfull : s.depth = s.maxDepth) : Fails s .openBlock (.refused (.overflow s.maxDepth))
  /-- Only the outermost level is open. -/
  | closeBlock (houtermost : s.depth = 1) : Fails s .closeBlock (.refused .underflow)
  | describedKind {id : SymbolId} {kind : Symbol.Kind} (hkind : IsDescribed kind) :
      Fails s (.setKind id kind) (.refused (.descriptorRequired kind))
  | setKind {id : SymbolId} {kind : Symbol.Kind} (hkind : ¬ IsDescribed kind)
      (hid : ¬ s.Declared id) : Fails s (.setKind id kind) (.undeclared id)
  | setDescriptor {id : SymbolId} {descriptor : TypeDescriptor} (hid : ¬ s.Declared id) :
      Fails s (.setDescriptor id descriptor) (.undeclared id)
  | setValueType {id type : SymbolId} (hid : ¬ s.Declared id) :
      Fails s (.setValueType id type) (.undeclared id)
  | defineAlias {name : NameId} {base : SymbolId} (hbase : ¬ s.Declared base) :
      Fails s (.defineAlias name base) (.undeclared base)
  | defineArray {name : NameId} {element : SymbolId} {count : Nat}
      (helement : ¬ s.Declared element) :
      Fails s (.defineArray name element count) (.undeclared element)
  | largeArray {name : NameId} {element : SymbolId} {count size : Nat}
      (helement : s.typeSize element = .ok size) (hlarge : ¬ FitsWord (count * size)) :
      Fails s (.defineArray name element count) (.refused (.typeTooLarge name))
  /-- What the fields before the one that measuring stops at take together fits in a word. -/
  | defineStruct {name : NameId} {before after : List SymbolId} {field : SymbolId}
      {sizes : List Nat} {fault : Fault} (hbefore : List.Forall₂ s.FieldTakes before sizes)
      (hfits : FitsWord sizes.sum) (hstops : s.FieldStops name sizes.sum field fault) :
      Fails s (.defineStruct name (before ++ field :: after)) fault

/-! ## The reasons for each request -/

section Reasons

variable {s : Scopes} {fault : Fault}

theorem modify_eq_error_iff {id : SymbolId} {f : Symbol → Symbol} :
    s.modify id f = .error fault ↔ ¬ s.Declared id ∧ fault = .undeclared id := by
  unfold modify
  split <;> simp [*, eq_comm]

theorem openBlock_eq_error_iff :
    s.perform .openBlock = .error fault ↔
      s.maxDepth ≤ s.depth ∧ fault = .refused (.overflow s.maxDepth) := by
  unfold perform Scopes.openBlock
  by_cases hdepth : s.depth < s.maxDepth
  · simp [hdepth, Nat.not_le.2 hdepth, Except.map, Except.mapError]
  · simp [hdepth, Nat.not_lt.1 hdepth, Except.map, Except.mapError, eq_comm]

theorem closeBlock_eq_error_iff :
    s.perform .closeBlock = .error fault ↔ s.depth = 1 ∧ fault = .refused .underflow := by
  unfold perform Scopes.closeBlock depth
  cases s.enclosing <;> simp [Except.map, Except.mapError, eq_comm]

theorem needsDescriptor_iff {kind : Symbol.Kind} :
    kind.needsDescriptor = true ↔ IsDescribed kind := by
  cases kind <;> simp [Symbol.Kind.needsDescriptor, IsDescribed]

theorem setKind_eq_error_iff {id : SymbolId} {kind : Symbol.Kind} :
    s.perform (.setKind id kind) = .error fault ↔
      (IsDescribed kind ∧ fault = .refused (.descriptorRequired kind)) ∨
        (¬ IsDescribed kind ∧ ¬ s.Declared id ∧ fault = .undeclared id) := by
  unfold perform Scopes.setKind
  rw [Except.map_eq_error_iff, ← needsDescriptor_iff]
  by_cases hkind : kind.needsDescriptor = true
  · simp [hkind, eq_comm]
  · simp [hkind, modify_eq_error_iff]

theorem setDescriptor_eq_error_iff {id : SymbolId} {descriptor : TypeDescriptor} :
    s.perform (.setDescriptor id descriptor) = .error fault ↔
      ¬ s.Declared id ∧ fault = .undeclared id :=
  Except.map_eq_error_iff.trans modify_eq_error_iff

theorem setValueType_eq_error_iff {id type : SymbolId} :
    s.perform (.setValueType id type) = .error fault ↔
      ¬ s.Declared id ∧ fault = .undeclared id :=
  Except.map_eq_error_iff.trans modify_eq_error_iff

theorem defineAlias_eq_error_iff {name : NameId} {base : SymbolId} :
    s.perform (.defineAlias name base) = .error fault ↔
      ¬ s.Declared base ∧ fault = .undeclared base := by
  rw [perform_defineAlias, Except.bind_eq_error_iff, typeSize_eq_error_iff, ← Nat.not_lt]
  simp

theorem defineArray_eq_error_iff {name : NameId} {element : SymbolId} {count : Nat} :
    s.perform (.defineArray name element count) = .error fault ↔
      (¬ s.Declared element ∧ fault = .undeclared element) ∨
        ∃ size, s.typeSize element = .ok size ∧ ¬ FitsWord (count * size) ∧
          fault = .refused (.typeTooLarge name) := by
  rw [perform_defineArray, Except.bind_eq_error_iff, typeSize_eq_error_iff, ← Nat.not_lt]
  simp [Except.bind_eq_error_iff, checkSize_eq_error_iff]

theorem defineStruct_eq_error_iff {name : NameId} {fields : List SymbolId} :
    s.perform (.defineStruct name fields) = .error fault ↔
      s.structSize name fields = .error fault := by
  rw [perform_defineStruct, Except.bind_eq_error_iff]
  simp

/-- As long as no more levels are open than may be, these are the reasons. -/
theorem perform_eq_error_iff (hdepth : s.depth ≤ s.maxDepth) {operation : Operation} :
    s.perform operation = .error fault ↔ s.Fails operation fault := by
  constructor
  · intro h
    cases operation with
    | openBlock =>
      obtain ⟨hfull, rfl⟩ := openBlock_eq_error_iff.1 h
      exact .openBlock (Nat.le_antisymm hdepth hfull)
    | closeBlock =>
      obtain ⟨houtermost, rfl⟩ := closeBlock_eq_error_iff.1 h
      exact .closeBlock houtermost
    | define name => cases h
    | defineVariable name type => cases h
    | defineAlias name base =>
      obtain ⟨hbase, rfl⟩ := defineAlias_eq_error_iff.1 h
      exact .defineAlias hbase
    | defineArray name element count =>
      obtain ⟨helement, rfl⟩ | ⟨size, hsize, hlarge, rfl⟩ := defineArray_eq_error_iff.1 h
      · exact .defineArray helement
      · exact .largeArray hsize hlarge
    | defineStruct name fields =>
      obtain ⟨before, field, after, sizes, rfl, hsizes, hfits, hstops⟩ :=
        structSize_eq_error_iff.1 (defineStruct_eq_error_iff.1 h)
      exact .defineStruct hsizes hfits hstops
    | setKind id kind =>
      obtain ⟨hkind, rfl⟩ | ⟨hkind, hid, rfl⟩ := setKind_eq_error_iff.1 h
      · exact .describedKind hkind
      · exact .setKind hkind hid
    | setDescriptor id descriptor =>
      obtain ⟨hid, rfl⟩ := setDescriptor_eq_error_iff.1 h
      exact .setDescriptor hid
    | setValueType id type =>
      obtain ⟨hid, rfl⟩ := setValueType_eq_error_iff.1 h
      exact .setValueType hid
  · intro h
    cases h with
    | openBlock hfull => exact openBlock_eq_error_iff.2 ⟨Nat.le_of_eq hfull.symm, rfl⟩
    | closeBlock houtermost => exact closeBlock_eq_error_iff.2 ⟨houtermost, rfl⟩
    | describedKind hkind => exact setKind_eq_error_iff.2 (.inl ⟨hkind, rfl⟩)
    | setKind hkind hid => exact setKind_eq_error_iff.2 (.inr ⟨hkind, hid, rfl⟩)
    | setDescriptor hid => exact setDescriptor_eq_error_iff.2 ⟨hid, rfl⟩
    | setValueType hid => exact setValueType_eq_error_iff.2 ⟨hid, rfl⟩
    | defineAlias hbase => exact defineAlias_eq_error_iff.2 ⟨hbase, rfl⟩
    | defineArray helement => exact defineArray_eq_error_iff.2 (.inl ⟨helement, rfl⟩)
    | largeArray helement hlarge =>
      exact defineArray_eq_error_iff.2 (.inr ⟨_, helement, hlarge, rfl⟩)
    | defineStruct hsizes hfits hstops =>
      exact defineStruct_eq_error_iff.2
        (structSize_eq_error_iff.2 ⟨_, _, _, _, rfl, hsizes, hfits, hstops⟩)

end Reasons

/-! ## The levels that are open -/

/-- The requests of a run that go through. -/
def accepted (s : Scopes) : List Operation → List Operation
  | [] => []
  | operation :: operations =>
    match s.perform operation with
    | .ok (_, s') => operation :: s'.accepted operations
    | .error _ => s.accepted operations

theorem Declares.ne_block {s : Scopes} {operation : Operation} {name : NameId} {symbol : Symbol}
    (h : s.Declares operation name symbol) : operation ≠ .openBlock ∧ operation ≠ .closeBlock := by
  cases h <;> simp

theorem Changes.ne_block {operation : Operation} {id : SymbolId} {f : Symbol → Symbol}
    (h : Changes operation id f) : operation ≠ .openBlock ∧ operation ≠ .closeBlock := by
  cases h <;> simp

/-- A request that goes through adds to the number of open levels if it opens one, and takes away
from it if it closes one. -/
theorem level_of_step {s s' : Scopes} {operation : Operation} {answer : Answer}
    (h : s.Step operation answer s') :
    s'.level + [operation].count .closeBlock = s.level + [operation].count .openBlock := by
  cases h with
  | openBlock hdepth => rfl
  | closeBlock henclosing =>
    unfold level
    rw [henclosing]
    rfl
  | declare hdeclares =>
    obtain ⟨hopen, hclose⟩ := hdeclares.ne_block
    simp [hopen, hclose, level, add]
  | change hchanges hid =>
    obtain ⟨hopen, hclose⟩ := hchanges.ne_block
    simp [hopen, hclose, level]

/-- The level is the number of blocks that were opened less that of those that were closed. -/
theorem level_afterAll (s : Scopes) (operations : List Operation) :
    (s.afterAll operations).level + (s.accepted operations).count .closeBlock =
      s.level + (s.accepted operations).count .openBlock := by
  induction operations generalizing s with
  | nil => rfl
  | cons operation operations ih =>
    change ((s.after operation).afterAll operations).level + _ = _
    unfold after accepted
    cases h : s.perform operation with
    | error fault => exact ih s
    | ok result =>
      obtain ⟨answer, s'⟩ := result
      have hone := level_of_step (step_of_perform h)
      have hrest := ih s'
      simp only [List.count_cons, List.count_nil] at hone ⊢
      omega

/-- No more levels are opened than may be, and how many that is never changes. -/
theorem depth_of_step {s s' : Scopes} {operation : Operation} {answer : Answer} {bound : Nat}
    (hs : s.depth ≤ bound ∧ s.maxDepth = bound) (h : s.Step operation answer s') :
    s'.depth ≤ bound ∧ s'.maxDepth = bound := by
  obtain ⟨hdepth, rfl⟩ := hs
  cases h with
  | openBlock hmore => exact ⟨hmore, rfl⟩
  | closeBlock henclosing =>
    refine ⟨?_, rfl⟩
    unfold depth at hdepth ⊢
    rw [henclosing, List.length_cons] at hdepth
    exact Nat.le_of_succ_le hdepth
  | declare hdeclares => exact ⟨hdepth, rfl⟩
  | change hchanges hid => exact ⟨hdepth, rfl⟩

theorem depth_afterAll {s : Scopes} (hs : s.depth ≤ s.maxDepth) (operations : List Operation) :
    (s.afterAll operations).depth ≤ s.maxDepth ∧
      (s.afterAll operations).maxDepth = s.maxDepth := by
  apply afterAll_induction (P := fun s' => s'.depth ≤ s.maxDepth ∧ s'.maxDepth = s.maxDepth)
  · intro operation hmem s' answer s'' hs' hstep
    exact depth_of_step hs' hstep
  · exact ⟨hs, rfl⟩

/-! ## The scopes that a run ends in -/

theorem le_of_validate {config : Config} {u : Unit} (h : config.validate = .ok u) :
    1 ≤ config.maxDepth := by
  unfold Config.validate at h
  split at h
  · cases h
  · next hdepth => exact Nat.pos_of_ne_zero hdepth

theorem create_eq_ok {config : Config} {start : Scopes} (h : create config = .ok start) :
    1 ≤ config.maxDepth ∧ start = ofDepth config.maxDepth := by
  obtain ⟨_, hvalid, hstart⟩ := Except.map_eq_ok_iff.1 h
  exact ⟨le_of_validate hvalid, hstart.symm⟩

theorem create_of_le {config : Config} (h : 1 ≤ config.maxDepth) :
    create config = .ok (ofDepth config.maxDepth) := by
  have hne : config.maxDepth ≠ 0 := Nat.ne_of_gt h
  simp [create, Config.validate, hne, Except.map]

theorem carryOut_of_error {s : Scopes} {operation : Operation} {fault : Fault}
    (h : s.perform operation = .error fault) : s.carryOut operation = (.error fault, s) := by
  rw [carryOut_eq, h]
  rfl

/-- Between one and as many levels are open as may be, and the level is the number of blocks opened
less that of blocks closed. A request does not go through exactly for the reasons listed, and has
not changed anything then, even if its changes are made one after the other. -/
theorem fails_without_trace {config : Config} {start : Scopes}
    (hstart : create config = .ok start) (operations : List Operation) :
    let s := start.afterAll operations
    let done := start.accepted operations
    (1 ≤ s.depth ∧ s.depth ≤ config.maxDepth ∧ s.maxDepth = config.maxDepth) ∧
      s.level + done.count .closeBlock = done.count .openBlock ∧
      ∀ operation fault,
        (s.perform operation = .error fault ↔ s.Fails operation fault) ∧
        (s.Fails operation fault →
          s.after operation = s ∧ s.carryOut operation = (.error fault, s)) := by
  intro s done
  obtain ⟨hsome, rfl⟩ := create_eq_ok hstart
  obtain ⟨hdepth, hmax⟩ := depth_afterAll (s := ofDepth config.maxDepth) hsome operations
  have hlevel := level_afterAll (ofDepth config.maxDepth) operations
  refine ⟨⟨Nat.le_add_left _ _, hdepth, hmax⟩, hlevel.trans (Nat.zero_add _), ?_⟩
  intro operation fault
  have hfails : s.perform operation = .error fault ↔ s.Fails operation fault :=
    perform_eq_error_iff (hmax ▸ hdepth)
  refine ⟨hfails, ?_⟩
  intro h
  have hundone := carryOut_of_error (hfails.2 h)
  refine ⟨?_, hundone⟩
  rw [← carryOut_snd, hundone]

/-- Measuring stops at the second field: in one struct it is too large together with the first, in
the other it was never declared. -/
theorem fails_without_trace_struct :
    let large : Operation := .defineArray ⟨0⟩ int (wordBound - 1)
    let s := (ofDepth 2).afterAll [.openBlock, .openBlock, large, .defineVariable ⟨1⟩ ⟨5⟩,
      .defineVariable ⟨2⟩ ⟨5⟩, .closeBlock, .closeBlock]
    s.level = 0 ∧
      s.carryOut (.defineStruct ⟨3⟩ [⟨6⟩, ⟨7⟩, ⟨8⟩]) =
        (.error (.refused (.typeTooLarge ⟨3⟩)), s) ∧
      s.carryOut (.defineStruct ⟨3⟩ [⟨6⟩, ⟨8⟩, ⟨7⟩]) = (.error (.undeclared ⟨8⟩), s) := by
  intro large s
  have hstart : create { maxDepth := 2 } = .ok (ofDepth 2) := rfl
  obtain ⟨-, hlevel, hfails⟩ := fails_without_trace hstart [.openBlock, .openBlock, large,
    .defineVariable ⟨1⟩ ⟨5⟩, .defineVariable ⟨2⟩ ⟨5⟩, .closeBlock, .closeBlock]
  have hfield : s.FieldTakes ⟨6⟩ (wordBound - 1) := .typed rfl rfl
  have hother : s.FieldTakes ⟨7⟩ (wordBound - 1) := .typed rfl rfl
  refine ⟨Nat.add_right_cancel (hlevel.trans (Nat.zero_add 1).symm), ?_, ?_⟩
  · have hstops : s.FieldStops ⟨3⟩ (wordBound - 1) ⟨7⟩ (.refused (.typeTooLarge ⟨3⟩)) :=
      .tooLarge hother (by decide)
    exact ((hfails _ _).2 (.defineStruct (.cons hfield .nil) (by decide) hstops)).2
  · have hstops : s.FieldStops ⟨3⟩ (wordBound - 1) ⟨8⟩ (.undeclared ⟨8⟩) :=
      .undeclared (.field (by decide))
    exact ((hfails _ _).2 (.defineStruct (.cons hfield .nil) (by decide) hstops)).2

end BlockLang.Scopes
