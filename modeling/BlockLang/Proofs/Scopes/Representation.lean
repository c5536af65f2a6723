-- SUMMARY: How the open levels, what is found in them and the symbols belong together after any run.
import BlockLang.Proofs.Scopes.Growth

namespace BlockLang.Scopes

/-!
# Representation

A level lists its symbols, and apart from that it keeps the latest symbol of each name; and each
symbol has a name as well. All three always agree: what a level finds for a name is the last of the
symbols listed that has the name (`Indexed`). From the outside in the open levels list their symbols
in the order of declaration, each symbol once; and the symbols that a run declares are numbered on
from the built-in ones and keep their names for good: `represented_afterAll`.
-/

/-- The name of a symbol. The built-in types have none. -/
def name? (s : Scopes) (id : SymbolId) : Option NameId :=
  (s.symbol? id).bind (·.name)

/-- The symbols of the open levels, from the outside in. -/
def openSymbols (s : Scopes) : List SymbolId :=
  s.levels.reverse.flatMap Level.symbols

/-- What the level finds for a name is the last of its symbols that has the name. -/
def Indexed (s : Scopes) (level : Level) : Prop :=
  ∀ name, level.find? name = (level.symbols.filter (s.name? · = some name)).getLast?

/-! ## Names -/

theorem name?_eq_join (s : Scopes) (id : SymbolId) :
    s.name? id = s.symbolNames[id.index]?.join := by
  rw [name?, symbol?, symbolNames]
  cases h : s.symbols[id.index]? <;> simp [h]

/-- A declared symbol keeps its name, whatever else happens to it. -/
theorem Grows.name?_eq {changed : SymbolId → Prop} {s s' : Scopes} (h : s.Grows changed s')
    {id : SymbolId} (hid : s.Declared id) : s'.name? id = s.name? id := by
  have hlt : id.index < s.symbolNames.length := by simpa [symbolNames] using hid
  obtain ⟨more, hmore⟩ := h.names
  rw [name?_eq_join, name?_eq_join, ← hmore, List.getElem?_append_left hlt]

theorem declared_of_name? {s : Scopes} {id : SymbolId} {name : NameId}
    (h : s.name? id = some name) : s.Declared id := by
  obtain ⟨symbol, hsymbol, -⟩ := Option.bind_eq_some_iff.1 h
  exact symbol?_eq_some_lt hsymbol

theorem Grows.name?_eq_some {changed : SymbolId → Prop} {s s' : Scopes} (h : s.Grows changed s')
    {id : SymbolId} {name : NameId} (hname : s.name? id = some name) : s'.name? id = some name :=
  (h.name?_eq (declared_of_name? hname)).trans hname

theorem Declares.name_eq {s : Scopes} {operation : Operation} {name : NameId} {symbol : Symbol}
    (h : s.Declares operation name symbol) : symbol.name = some name := by
  cases h <;> rfl

/-- The symbol that is added has the name that it is added under. -/
theorem name?_add {s : Scopes} {operation : Operation} {name : NameId} {symbol : Symbol}
    (h : s.Declares operation name symbol) :
    (s.add name symbol).2.name? ⟨s.symbols.size⟩ = some name := by
  rw [name?, symbol?_add, if_pos rfl, Option.bind_some, h.name_eq]

/-! ## The index of a level -/

theorem indexed_empty (s : Scopes) : s.Indexed {} :=
  fun _ => rfl

/-- Listing a symbol and making it the latest one of its name go together. -/
theorem Indexed.declare {s : Scopes} {level : Level} (h : s.Indexed level) {id : SymbolId}
    {name : NameId} (hname : s.name? id = some name) : s.Indexed (level.declare name id) := by
  intro other
  rw [Level.find?_declare, Level.symbols_declare, List.filter_append]
  by_cases hother : other = name
  · simp [hother, hname]
  · simp [hother, Ne.symm hother, hname, h other]

/-- The index of a level stays right, since the symbols listed keep their names. -/
theorem Indexed.of_grows {changed : SymbolId → Prop} {s s' : Scopes} {level : Level}
    (h : s.Indexed level) (hgrows : s.Grows changed s')
    (hdeclared : ∀ id ∈ level.symbols, s.Declared id) : s'.Indexed level := by
  intro name
  rw [h name]
  congr 1
  apply List.filter_congr
  intro id hid
  rw [hgrows.name?_eq (hdeclared id hid)]

/-! ## The symbols of the open levels -/

theorem openSymbols_openBlock (s : Scopes) :
    openSymbols { s with current := {}, enclosing := s.current :: s.enclosing } =
      s.openSymbols := by
  simp [openSymbols, levels]

theorem openSymbols_closeBlock {s : Scopes} {outer : Level} {rest : List Level}
    (h : s.enclosing = outer :: rest) :
    s.openSymbols =
      openSymbols { s with current := outer, enclosing := rest } ++ s.current.symbols := by
  simp [openSymbols, levels, h]

theorem openSymbols_add (s : Scopes) (name : NameId) (symbol : Symbol) :
    (s.add name symbol).2.openSymbols = s.openSymbols ++ [⟨s.symbols.size⟩] := by
  simp [openSymbols, levels, add]

theorem mem_openSymbols {s : Scopes} {level : Level} (hlevel : level ∈ s.levels) {id : SymbolId}
    (hid : id ∈ level.symbols) : id ∈ s.openSymbols :=
  List.mem_flatMap.2 ⟨level, List.mem_reverse.2 hlevel, hid⟩

/-! ## One request -/

/-- The index of each open level agrees with the symbols listed, and the open levels list symbols in
the order of their declaration, none of them built in. -/
structure Sound (s : Scopes) : Prop where
  builtins_le : 5 ≤ s.symbols.size
  indexed : ∀ level ∈ s.levels, s.Indexed level
  bounds : ∀ id ∈ s.openSymbols, 5 ≤ id.index ∧ s.Declared id
  increasing : s.openSymbols.Pairwise (·.index < ·.index)

namespace Sound

variable {s : Scopes}

theorem declared (hs : s.Sound) {level : Level} (hlevel : level ∈ s.levels) :
    ∀ id ∈ level.symbols, s.Declared id :=
  fun id hid => (hs.bounds id (mem_openSymbols hlevel hid)).2

theorem openBlock (hs : s.Sound) :
    Sound { s with current := {}, enclosing := s.current :: s.enclosing } where
  builtins_le := hs.builtins_le
  indexed := List.forall_mem_cons.2 ⟨indexed_empty s, hs.indexed⟩
  bounds := s.openSymbols_openBlock ▸ hs.bounds
  increasing := s.openSymbols_openBlock ▸ hs.increasing

theorem closeBlock (hs : s.Sound) {outer : Level} {rest : List Level}
    (h : s.enclosing = outer :: rest) : Sound { s with current := outer, enclosing := rest } where
  builtins_le := hs.builtins_le
  indexed := by
    have hindexed := hs.indexed
    rw [levels, h] at hindexed
    exact (List.forall_mem_cons.1 hindexed).2
  bounds := by
    have hbounds := hs.bounds
    rw [openSymbols_closeBlock h] at hbounds
    exact fun id hid => hbounds id (List.mem_append_left _ hid)
  increasing := by
    have hincreasing := hs.increasing
    rw [openSymbols_closeBlock h] at hincreasing
    exact (List.pairwise_append.1 hincreasing).1

theorem declare (hs : s.Sound) {operation : Operation} {name : NameId} {symbol : Symbol}
    (h : s.Declares operation name symbol) : (s.add name symbol).2.Sound := by
  have hgrows := grows_of_step (.declare h)
  constructor
  case builtins_le => exact Nat.le_trans hs.builtins_le hgrows.size_le
  case indexed =>
    have hkept : ∀ level ∈ s.levels, (s.add name symbol).2.Indexed level :=
      fun level hlevel => (hs.indexed level hlevel).of_grows hgrows (hs.declared hlevel)
    obtain ⟨hcurrent, henclosing⟩ := List.forall_mem_cons.1 hkept
    exact List.forall_mem_cons.2 ⟨hcurrent.declare (name?_add h), henclosing⟩
  case bounds =>
    rw [openSymbols_add]
    intro id hid
    rcases List.mem_append.1 hid with hid | hid
    · obtain ⟨hle, hdeclared⟩ := hs.bounds id hid
      exact ⟨hle, hgrows.declared hdeclared⟩
    · obtain rfl := List.mem_singleton.1 hid
      exact ⟨hs.builtins_le, by simp [Declared, add]⟩
  case increasing =>
    rw [openSymbols_add]
    refine List.pairwise_append.2 ⟨hs.increasing, List.pairwise_singleton _ _, ?_⟩
    -- The new symbol comes behind every symbol that is declared.
    intro id hid new hnew
    obtain rfl := List.mem_singleton.1 hnew
    exact (hs.bounds id hid).2

theorem change (hs : s.Sound) {operation : Operation} {id : SymbolId} {f : Symbol → Symbol}
    (h : Changes operation id f) (hid : s.Declared id) :
    Sound { s with symbols := s.symbols.modify id.index f } := by
  have hgrows := grows_of_step (.change h hid)
  constructor
  case builtins_le => exact Nat.le_trans hs.builtins_le hgrows.size_le
  case indexed =>
    exact fun level hlevel => (hs.indexed level hlevel).of_grows hgrows (hs.declared hlevel)
  case bounds => exact fun id hid => (hs.bounds id hid).imp_right hgrows.declared
  case increasing => exact hs.increasing

theorem step (hs : s.Sound) {s' : Scopes} {operation : Operation} {answer : Answer}
    (h : s.Step operation answer s') : s'.Sound := by
  cases h with
  | openBlock => exact hs.openBlock
  | closeBlock henclosing => exact hs.closeBlock henclosing
  | declare hdeclares => exact hs.declare hdeclares
  | change hchanges hid => exact hs.change hchanges hid

end Sound

theorem sound_ofDepth (depth : Nat) : (ofDepth depth).Sound where
  builtins_le := Nat.le_refl _
  indexed := List.forall_mem_singleton.2 (indexed_empty _)
  bounds := nofun
  increasing := List.Pairwise.nil

theorem sound_afterAll (depth : Nat) (operations : List Operation) :
    ((ofDepth depth).afterAll operations).Sound :=
  afterAll_induction (fun _ _ _ _ _ hs hstep => hs.step hstep) (sound_ofDepth depth)

/-! ## The symbols that are declared -/

/-- Every declared symbol has the name that it was declared under. -/
theorem names_after {h : History} {s : Scopes}
    (hnames : ∀ d ∈ h.declarations, s.name? d.symbol = some d.name) (operation : Operation) :
    ∀ d ∈ (h.after s operation).declarations,
      (s.after operation).name? d.symbol = some d.name := by
  unfold History.after after
  cases hperform : s.perform operation with
  | error fault => exact hnames
  | ok result =>
    obtain ⟨answer, s'⟩ := result
    have hstep := step_of_perform hperform
    have hkept : ∀ d ∈ h.declarations, s'.name? d.symbol = some d.name :=
      fun d hd => (grows_of_step hstep).name?_eq_some (hnames d hd)
    rcases declarations_step hstep h with ⟨-, hsame⟩ | ⟨name, symbol, hdeclares, rfl, hadded⟩
    · rwa [hsame]
    · rw [hadded]
      exact List.forall_mem_append.2 ⟨hkept, List.forall_mem_singleton.2 (name?_add hdeclares)⟩

theorem names_afterAll {h : History} {s : Scopes}
    (hnames : ∀ d ∈ h.declarations, s.name? d.symbol = some d.name) (operations : List Operation) :
    ∀ d ∈ (h.afterAll s operations).declarations,
      (s.afterAll operations).name? d.symbol = some d.name := by
  induction operations generalizing h s with
  | nil => exact hnames
  | cons operation operations ih => exact ih (names_after hnames operation)

/-- The symbols that a run declares are numbered on from the built-in ones. -/
theorem symbol_of_declarations (depth : Nat) (operations : List Operation) {k : Nat}
    {d : Declaration}
    (hd : (History.afterAll {} (ofDepth depth) operations).declarations[k]? = some d) :
    d.symbol = ⟨5 + k⟩ := by
  obtain ⟨count, -, hissued⟩ := numbers_afterAll {} (ofDepth depth) operations
  have hissued : (History.afterAll {} (ofDepth depth) operations).declarations.map (·.symbol) =
      (List.range' 5 count).map SymbolId.mk := hissued
  have hk := congrArg (·[k]?) hissued
  simp only [List.getElem?_map, hd, Option.map_some] at hk
  obtain ⟨index, hindex, hsymbol⟩ := Option.map_eq_some_iff.1 hk.symm
  obtain ⟨hlt, hget⟩ := List.getElem?_eq_some_iff.1 hindex
  rw [List.getElem_range', Nat.one_mul] at hget
  rw [← hsymbol, hget]

/-! ## Main statement -/

/-- What holds of the scopes `s` after a run with the history `h`. -/
structure Represented (h : History) (s : Scopes) : Prop where
  /-- The outermost level is open. -/
  levels_ne_nil : s.levels ≠ []
  /-- What a level finds for a name is the last of its symbols that has the name. -/
  latest : ∀ level ∈ s.levels, ∀ name,
    level.find? name = (level.symbols.filter (s.name? · = some name)).getLast?
  /-- A level finds nothing for a name that none of its symbols has. -/
  unlisted : ∀ level ∈ s.levels, ∀ name,
    level.find? name = none ↔ ∀ id ∈ level.symbols, s.name? id ≠ some name
  /-- No symbol is listed twice, in one level or in two: all are in the order of declaration. -/
  increasing : s.openSymbols.Pairwise (·.index < ·.index)
  /-- The symbols listed are none of the built-in ones. -/
  bounds : ∀ id ∈ s.openSymbols, 5 ≤ id.index ∧ id.index < s.symbols.size
  /-- The symbols declared are numbered on from the built-in ones. -/
  numbered : ∀ (k : Nat) (d : Declaration), h.declarations[k]? = some d → d.symbol = ⟨5 + k⟩
  /-- Whatever is requested later, a declared symbol has the name that it was declared under. -/
  named : ∀ d ∈ h.declarations, ∀ operations : List Operation,
    (s.afterAll operations).name? d.symbol = some d.name

/-- The open levels, what is found in them and the symbols belong together after every run. -/
theorem represented_afterAll (depth : Nat) (operations : List Operation) :
    Represented (History.afterAll {} (ofDepth depth) operations)
      ((ofDepth depth).afterAll operations) := by
  have hsound := sound_afterAll depth operations
  have hnames := @names_afterAll {} (ofDepth depth) nofun operations
  constructor
  case levels_ne_nil => exact List.cons_ne_nil _ _
  case latest => exact hsound.indexed
  case unlisted =>
    intro level hlevel name
    rw [hsound.indexed level hlevel name]
    simp
  case increasing => exact hsound.increasing
  case bounds => exact hsound.bounds
  case numbered => exact fun _ _ => symbol_of_declarations depth operations
  case named =>
    intro d hd more
    exact (grows_afterAll _ more).name?_eq_some (hnames d hd)

end BlockLang.Scopes
