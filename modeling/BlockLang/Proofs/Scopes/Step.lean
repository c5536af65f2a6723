-- SUMMARY: What a request that goes through does to the scopes, and what runs of requests keep.
import BlockLang.Proofs.Except
import BlockLang.Scopes.Operation

namespace BlockLang.Scopes

/-!
# Steps and runs

A request that goes through opens a level, closes one, adds one symbol to the innermost one, or
changes one symbol: `Step` lists these cases once, and every property of a run is proved over them.
-/

/-- The symbol of a type that is declared by its descriptor. -/
def described (name : NameId) (descriptor : TypeDescriptor) : Symbol :=
  { name, kind := descriptor.kind, descriptor }

/-- The request adds `symbol` under `name`. -/
inductive Declares (s : Scopes) : Operation → NameId → Symbol → Prop
  | undefined {name : NameId} : Declares s (.define name) name { name, kind := .undefined }
  | var {name : NameId} {type : SymbolId} :
      Declares s (.defineVariable name type) name { name, kind := .var, valueType := type }
  | aliasOf {name : NameId} {base : SymbolId} {symbol : Symbol} (hbase : s.symbol? base = some symbol) :
      Declares s (.defineAlias name base) name (described name (.aliasOf base symbol.typeSize))
  | arrayOf {name : NameId} {element : SymbolId} {count : Nat} {symbol : Symbol}
      (helement : s.symbol? element = some symbol) (hfits : FitsWord (count * symbol.typeSize)) :
      Declares s (.defineArray name element count) name
        (described name (.arrayOf element count (count * symbol.typeSize)))
  | structOf {name : NameId} {fields : List SymbolId} {size : Nat}
      (hsize : s.structSize name fields = .ok size) :
      Declares s (.defineStruct name fields) name (described name (.structOf fields size))

/-- The request applies `f` to the symbol `id`. -/
inductive Changes : Operation → SymbolId → (Symbol → Symbol) → Prop
  | kind {id : SymbolId} {kind : Symbol.Kind} (hkind : kind.needsDescriptor = false) :
      Changes (.setKind id kind) id fun symbol => { symbol with kind, descriptor := none }
  | descriptor {id : SymbolId} {descriptor : TypeDescriptor} :
      Changes (.setDescriptor id descriptor) id fun symbol =>
        { symbol with kind := descriptor.kind, descriptor }
  | valueType {id type : SymbolId} :
      Changes (.setValueType id type) id fun symbol => { symbol with valueType := type }

/-- What a request that goes through is answered with, and the scopes after it. -/
inductive Step (s : Scopes) : Operation → Answer → Scopes → Prop
  | openBlock (hdepth : s.depth < s.maxDepth) :
      Step s .openBlock (.level (s.level + 1))
        { s with current := {}, enclosing := s.current :: s.enclosing }
  | closeBlock {outer : Level} {rest : List Level} (henclosing : s.enclosing = outer :: rest) :
      Step s .closeBlock (.level rest.length) { s with current := outer, enclosing := rest }
  | declare {operation : Operation} {name : NameId} {symbol : Symbol}
      (h : s.Declares operation name symbol) :
      Step s operation (.symbol ⟨s.symbols.size⟩) (s.add name symbol).2
  | change {operation : Operation} {id : SymbolId} {f : Symbol → Symbol}
      (h : Changes operation id f) (hid : id.index < s.symbols.size) :
      Step s operation .done { s with symbols := s.symbols.modify id.index f }

/-! ## The cases of one request -/

theorem symbol_eq_ok_iff {s : Scopes} {id : SymbolId} {symbol : Symbol} :
    s.symbol id = .ok symbol ↔ s.symbol? id = some symbol := by
  unfold Scopes.symbol
  split <;> simp [*]

theorem typeSize_eq_ok {s : Scopes} {id : SymbolId} {size : Nat} (h : s.typeSize id = .ok size) :
    ∃ symbol, s.symbol? id = some symbol ∧ symbol.typeSize = size := by
  obtain ⟨symbol, hsymbol, hsize⟩ := Except.bind_eq_ok_iff.1 h
  exact ⟨symbol, symbol_eq_ok_iff.1 hsymbol, Except.ok.inj hsize⟩

theorem checkSize_eq_ok {name : NameId} {size size' : Nat} (h : checkSize name size = .ok size') :
    size' = size ∧ FitsWord size := by
  unfold checkSize at h
  split at h
  · next hfits => exact ⟨(Except.ok.inj h).symm, hfits⟩
  · cases h

theorem step_of_modify {s s' : Scopes} {operation : Operation} {id : SymbolId}
    {f : Symbol → Symbol} (hchanges : Changes operation id f) (h : s.modify id f = .ok s') :
    s.Step operation .done s' := by
  unfold modify at h
  split at h
  · next hid =>
    obtain rfl := Except.ok.inj h
    exact .change hchanges hid
  · cases h

theorem step_of_openBlock {s s' : Scopes} (h : s.openBlock = .ok s') :
    s.Step .openBlock (.level s'.level) s' := by
  unfold Scopes.openBlock at h
  split at h
  · next hdepth =>
    obtain rfl := Except.ok.inj h
    exact .openBlock hdepth
  · cases h

theorem step_of_closeBlock {s s' : Scopes} (h : s.closeBlock = .ok s') :
    s.Step .closeBlock (.level s'.level) s' := by
  unfold Scopes.closeBlock at h
  split at h
  · cases h
  · next outer rest henclosing =>
    obtain rfl := Except.ok.inj h
    exact .closeBlock henclosing

theorem declares_of_defineAlias {s : Scopes} {name : NameId} {base : SymbolId}
    {answer : SymbolId × Scopes} (h : s.defineAlias name base = .ok answer) :
    ∃ symbol, s.Declares (.defineAlias name base) name symbol ∧ answer = s.add name symbol := by
  obtain ⟨size, hsize, hanswer⟩ := Except.bind_eq_ok_iff.1 h
  obtain ⟨symbol, hsymbol, rfl⟩ := typeSize_eq_ok hsize
  exact ⟨_, .aliasOf hsymbol, (Except.ok.inj hanswer).symm⟩

theorem declares_of_defineArray {s : Scopes} {name : NameId} {element : SymbolId} {count : Nat}
    {answer : SymbolId × Scopes} (h : s.defineArray name element count = .ok answer) :
    ∃ symbol, s.Declares (.defineArray name element count) name symbol ∧
      answer = s.add name symbol := by
  obtain ⟨size, hsize, h⟩ := Except.bind_eq_ok_iff.1 h
  obtain ⟨total, htotal, hanswer⟩ := Except.bind_eq_ok_iff.1 h
  obtain ⟨symbol, hsymbol, rfl⟩ := typeSize_eq_ok hsize
  obtain ⟨rfl, hfits⟩ := checkSize_eq_ok htotal
  exact ⟨_, .arrayOf hsymbol hfits, (Except.ok.inj hanswer).symm⟩

theorem declares_of_defineStruct {s : Scopes} {name : NameId} {fields : List SymbolId}
    {answer : SymbolId × Scopes} (h : s.defineStruct name fields = .ok answer) :
    ∃ symbol, s.Declares (.defineStruct name fields) name symbol ∧ answer = s.add name symbol := by
  obtain ⟨size, hsize, hanswer⟩ := Except.bind_eq_ok_iff.1 h
  exact ⟨_, .structOf hsize, (Except.ok.inj hanswer).symm⟩

/-- A request that goes through takes one of the steps. -/
theorem step_of_perform {s s' : Scopes} {operation : Operation} {answer : Answer}
    (h : s.perform operation = .ok (answer, s')) : s.Step operation answer s' := by
  cases operation with
  | openBlock =>
    obtain ⟨opened, hopened, heq⟩ := Except.map_eq_ok_iff.1 (Except.mapError_eq_ok_iff.1 h)
    cases heq
    exact step_of_openBlock hopened
  | closeBlock =>
    obtain ⟨closed, hclosed, heq⟩ := Except.map_eq_ok_iff.1 (Except.mapError_eq_ok_iff.1 h)
    cases heq
    exact step_of_closeBlock hclosed
  | define name =>
    cases h
    exact .declare .undefined
  | defineVariable name type =>
    cases h
    exact .declare .var
  | defineAlias name base =>
    obtain ⟨added, hadded, heq⟩ := Except.map_eq_ok_iff.1 h
    obtain ⟨symbol, hdeclares, rfl⟩ := declares_of_defineAlias hadded
    cases heq
    exact .declare hdeclares
  | defineArray name element count =>
    obtain ⟨added, hadded, heq⟩ := Except.map_eq_ok_iff.1 h
    obtain ⟨symbol, hdeclares, rfl⟩ := declares_of_defineArray hadded
    cases heq
    exact .declare hdeclares
  | defineStruct name fields =>
    obtain ⟨added, hadded, heq⟩ := Except.map_eq_ok_iff.1 h
    obtain ⟨symbol, hdeclares, rfl⟩ := declares_of_defineStruct hadded
    cases heq
    exact .declare hdeclares
  | setKind id kind =>
    obtain ⟨changed, hchanged, heq⟩ := Except.map_eq_ok_iff.1 h
    cases heq
    unfold setKind at hchanged
    split at hchanged
    · cases hchanged
    · next hkind => exact step_of_modify (.kind (by simpa using hkind)) hchanged
  | setDescriptor id descriptor =>
    obtain ⟨changed, hchanged, heq⟩ := Except.map_eq_ok_iff.1 h
    cases heq
    exact step_of_modify .descriptor hchanged
  | setValueType id type =>
    obtain ⟨changed, hchanged, heq⟩ := Except.map_eq_ok_iff.1 h
    cases heq
    exact step_of_modify .valueType hchanged

/-- A request leaves the scopes as they are, or takes one of the steps. -/
theorem after_cases (s : Scopes) (operation : Operation) :
    s.after operation = s ∨ ∃ answer, s.Step operation answer (s.after operation) := by
  unfold after
  split
  · next answer s' h => exact Or.inr ⟨answer, step_of_perform h⟩
  · exact Or.inl rfl

/-! ## Runs -/

/-- What every step of a run keeps, the whole run keeps. -/
theorem afterAll_induction {P : Scopes → Prop} {operations : List Operation}
    (hstep : ∀ operation ∈ operations, ∀ s answer s', P s → Step s operation answer s' → P s')
    {s : Scopes} (hs : P s) : P (s.afterAll operations) := by
  induction operations generalizing s with
  | nil => exact hs
  | cons operation operations ih =>
    have hafter : P (s.after operation) := by
      rcases s.after_cases operation with hsame | ⟨answer, htaken⟩
      · rwa [hsame]
      · exact hstep operation List.mem_cons_self s answer _ hs htaken
    apply ih _ hafter
    intro operation' hmem
    exact hstep operation' (List.mem_cons_of_mem _ hmem)

/-! ## The symbols after a step -/

theorem symbol?_eq_some_lt {s : Scopes} {id : SymbolId} {symbol : Symbol}
    (h : s.symbol? id = some symbol) : id.index < s.symbols.size :=
  (Array.getElem?_eq_some_iff.1 h).1

theorem exists_symbol?_of_lt {s : Scopes} {id : SymbolId} (h : id.index < s.symbols.size) :
    ∃ symbol, s.symbol? id = some symbol :=
  ⟨_, Array.getElem?_eq_getElem h⟩

/-- The built-in types are of plain kinds and have no descriptor. -/
theorem plain_of_builtin {depth : Nat} {id : SymbolId} {symbol : Symbol}
    (h : (ofDepth depth).symbol? id = some symbol) :
    symbol.kind.needsDescriptor = false ∧ symbol.descriptor = none := by
  have hmem : symbol ∈ builtins := Array.mem_of_getElem? h
  have hplain : ∀ symbol ∈ builtins,
      symbol.kind.needsDescriptor = false ∧ symbol.descriptor = none := by decide
  exact hplain symbol hmem

theorem symbol?_add (s : Scopes) (name : NameId) (symbol : Symbol) (id : SymbolId) :
    (s.add name symbol).2.symbol? id =
      if id.index = s.symbols.size then some symbol else s.symbol? id := by
  simp [symbol?, add, Array.getElem?_push]

theorem symbol?_modify (s : Scopes) (id target : SymbolId) (f : Symbol → Symbol) :
    symbol? { s with symbols := s.symbols.modify target.index f } id =
      if target = id then (s.symbol? id).map f else s.symbol? id := by
  have hid : target = id ↔ target.index = id.index := by
    cases target
    cases id
    simp
  simp [symbol?, Array.getElem?_modify, hid]

end BlockLang.Scopes
