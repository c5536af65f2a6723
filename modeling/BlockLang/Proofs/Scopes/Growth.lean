-- SUMMARY: Runs add symbols behind those that are there, and change only those they are asked to change.
import BlockLang.Proofs.Scopes.History
import BlockLang.Proofs.Scopes.Use

namespace BlockLang.Scopes

/-!
# Growth

Symbols are never removed, named anew or numbered anew, whichever blocks are opened and closed. A
run only adds symbols at the end, and a symbol that no request is made to change stays as it was.
-/

/-- The symbol that a request is made to change. -/
def Operation.target? : Operation → Option SymbolId
  | .setKind id _ | .setDescriptor id _ | .setValueType id _ => some id
  | _ => none

/-- Whether one of the requests is made to change the symbol. -/
def Targets (operations : List Operation) (id : SymbolId) : Prop :=
  ∃ operation ∈ operations, operation.target? = some id

def symbolNames (s : Scopes) : List (Option NameId) :=
  s.symbols.toList.map (·.name)

/-- `s'` has the symbols of `s` in their places and with their names, and maybe more behind them.
Those that are not `changed` are the same symbols. -/
structure Grows (changed : SymbolId → Prop) (s s' : Scopes) : Prop where
  names : s.symbolNames <+: s'.symbolNames
  kept : ∀ id, s.Declared id → ¬ changed id → s'.symbol? id = s.symbol? id

namespace Grows

variable {changed changed' : SymbolId → Prop} {s s' s'' : Scopes}

theorem refl (changed : SymbolId → Prop) (s : Scopes) : s.Grows changed s :=
  ⟨List.prefix_rfl, fun _ _ _ => rfl⟩

theorem mono (h : s.Grows changed s') (hmore : ∀ id, changed id → changed' id) :
    s.Grows changed' s' :=
  ⟨h.names, fun id hid hsame => h.kept id hid (mt (hmore id) hsame)⟩

theorem size_le (h : s.Grows changed s') : s.symbols.size ≤ s'.symbols.size := by
  simpa [symbolNames] using h.names.length_le

/-- A declared symbol stays declared. -/
theorem declared (h : s.Grows changed s') {id : SymbolId} (hid : s.Declared id) : s'.Declared id :=
  Nat.lt_of_lt_of_le hid h.size_le

theorem trans (h : s.Grows changed s') (h' : s'.Grows changed s'') : s.Grows changed s'' where
  names := h.names.trans h'.names
  kept := fun id hid hsame => (h'.kept id (h.declared hid) hsame).trans (h.kept id hid hsame)

end Grows

/-! ## One request -/

theorem Changes.target?_eq {operation : Operation} {id : SymbolId} {f : Symbol → Symbol}
    (h : Changes operation id f) : operation.target? = some id := by
  cases h <;> rfl

/-- No request gives a symbol another name. -/
theorem Changes.name_eq {operation : Operation} {id : SymbolId} {f : Symbol → Symbol}
    (h : Changes operation id f) (symbol : Symbol) : (f symbol).name = symbol.name := by
  cases h <;> rfl

theorem symbolNames_add (s : Scopes) (name : NameId) (symbol : Symbol) :
    (s.add name symbol).2.symbolNames = s.symbolNames ++ [symbol.name] := by
  simp [symbolNames, add]

theorem symbolNames_modify (s : Scopes) (index : Nat) {f : Symbol → Symbol}
    (h : ∀ symbol, (f symbol).name = symbol.name) :
    symbolNames { s with symbols := s.symbols.modify index f } = s.symbolNames := by
  apply List.ext_getElem?
  intro i
  simp only [symbolNames, List.getElem?_map, Array.getElem?_toList, Array.getElem?_modify]
  split
  · simp [Function.comp_def, h]
  · rfl

theorem grows_of_step {s s' : Scopes} {operation : Operation} {answer : Answer}
    (h : s.Step operation answer s') : s.Grows (operation.target? = some ·) s' := by
  cases h with
  | openBlock => exact ⟨List.prefix_rfl, fun _ _ _ => rfl⟩
  | closeBlock => exact ⟨List.prefix_rfl, fun _ _ _ => rfl⟩
  | @declare operation name symbol hdeclares =>
    constructor
    case names => exact symbolNames_add s name symbol ▸ List.prefix_append _ _
    case kept =>
      intro id hid _
      rw [symbol?_add, if_neg (Nat.ne_of_lt hid)]
  | @change operation target f hchanges _ =>
    constructor
    case names => exact symbolNames_modify s _ hchanges.name_eq ▸ List.prefix_rfl
    case kept =>
      intro id _ hother
      have hne : target ≠ id := fun heq => hother (heq ▸ hchanges.target?_eq)
      rw [symbol?_modify, if_neg hne]

/-! ## Runs -/

theorem grows_afterAll (s : Scopes) (operations : List Operation) :
    s.Grows (Targets operations) (s.afterAll operations) := by
  apply afterAll_induction (P := fun s' => s.Grows (Targets operations) s') _ (Grows.refl _ s)
  intro operation hmem s' answer s'' hs' hstep
  have hone := (grows_of_step hstep).mono fun id (htarget : operation.target? = some id) =>
    (⟨operation, hmem, htarget⟩ : Targets operations id)
  exact hs'.trans hone

/-! ## The symbols that are declared -/

/-- From `h` and `s` to `h'` and `s'` just those symbols were declared that were added, in order. -/
def Numbers (h : History) (s : Scopes) (h' : History) (s' : Scopes) : Prop :=
  ∃ count, s'.symbols.size = s.symbols.size + count ∧
    h'.declarations.map (·.symbol) =
      h.declarations.map (·.symbol) ++ (List.range' s.symbols.size count).map SymbolId.mk

theorem numbers_of_same {h h' : History} {s s' : Scopes}
    (hsize : s'.symbols.size = s.symbols.size) (hsame : h'.declarations = h.declarations) :
    Numbers h s h' s' :=
  ⟨0, hsize, by simp [hsame]⟩

theorem Numbers.trans {h h' h'' : History} {s s' s'' : Scopes} (hfirst : Numbers h s h' s')
    (hrest : Numbers h' s' h'' s'') : Numbers h s h'' s'' := by
  obtain ⟨m, hsize, hsymbols⟩ := hfirst
  obtain ⟨n, hsize', hsymbols'⟩ := hrest
  refine ⟨m + n, ?_, ?_⟩
  · rw [hsize', hsize, Nat.add_assoc]
  · rw [hsymbols', hsymbols, hsize, List.append_assoc, ← List.map_append, List.range'_append_1]

/-- A step declares nothing, or it adds one symbol, and just this one is declared. -/
theorem declarations_step {s s' : Scopes} {operation : Operation} {answer : Answer}
    (hstep : s.Step operation answer s') (h : History) :
    (s'.symbols.size = s.symbols.size ∧
      (h.record operation answer).declarations = h.declarations) ∨
    ∃ name symbol, s.Declares operation name symbol ∧ s' = (s.add name symbol).2 ∧
      (h.record operation answer).declarations =
        h.declarations ++ [⟨name, ⟨s.symbols.size⟩, h.current⟩] := by
  cases hstep with
  | openBlock => exact .inl ⟨rfl, rfl⟩
  | closeBlock =>
    refine .inl ⟨rfl, ?_⟩
    unfold History.record
    cases h.enclosing <;> rfl
  | declare hdeclares =>
    rw [record_of_declares hdeclares]
    exact .inr ⟨_, _, hdeclares, rfl, rfl⟩
  | change hchanges =>
    rw [record_of_changes hchanges]
    exact .inl ⟨by simp, rfl⟩

theorem numbers_step {h : History} {s s' : Scopes} {operation : Operation} {answer : Answer}
    (hstep : s.Step operation answer s') : Numbers h s (h.record operation answer) s' := by
  rcases declarations_step hstep h with ⟨hsize, hsame⟩ | ⟨name, symbol, -, rfl, hadded⟩
  · exact numbers_of_same hsize hsame
  · exact ⟨1, by simp [add], by simp [hadded]⟩

theorem numbers_after (h : History) (s : Scopes) (operation : Operation) :
    Numbers h s (h.after s operation) (s.after operation) := by
  unfold History.after after
  cases hperform : s.perform operation with
  | error fault => exact numbers_of_same rfl rfl
  | ok result =>
    obtain ⟨answer, s'⟩ := result
    exact numbers_step (step_of_perform hperform)

/-- The symbols that a run declares come right behind those that are there. -/
theorem numbers_afterAll (h : History) (s : Scopes) (operations : List Operation) :
    Numbers h s (h.afterAll s operations) (s.afterAll operations) := by
  induction operations generalizing h s with
  | nil => exact numbers_of_same rfl rfl
  | cons operation operations ih => exact (numbers_after h s operation).trans (ih _ _)

end BlockLang.Scopes
