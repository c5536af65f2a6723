-- SUMMARY: Types keep their meaning after the blocks that declared them have been closed.
import BlockLang.Proofs.Scopes.Growth
import BlockLang.Proofs.Scopes.Alike

namespace BlockLang.Scopes

/-!
# Lifetime

What is found out about a type is found by looking up symbols, never by looking at the levels. So it
stays the same for as long as the symbols do, whichever blocks are closed: `types_outlive_blocks`.
-/

/-- Every symbol of `s` is the same symbol in `s'`. -/
def RetainedIn (s s' : Scopes) : Prop :=
  ∀ id symbol, s.symbol? id = some symbol → s'.symbol? id = some symbol

/-- Scopes that grow retain their symbols if none of them is changed. -/
theorem Grows.retainedIn {changed : SymbolId → Prop} {s s' : Scopes} (h : s.Grows changed s')
    (hnew : ∀ id, changed id → ¬ s.Declared id) : s.RetainedIn s' := by
  intro id symbol hsymbol
  have hid : s.Declared id := symbol?_eq_some_lt hsymbol
  rw [h.kept id hid fun hchanged => hnew id hchanged hid, hsymbol]

/-! ## Answers about retained symbols -/

namespace RetainedIn

variable {s s' : Scopes}

theorem size_le (h : s.RetainedIn s') : s.symbols.size ≤ s'.symbols.size := by
  rw [← Nat.not_lt]
  intro hlt
  obtain ⟨symbol, hsymbol⟩ : ∃ symbol, s.symbol? ⟨s'.symbols.size⟩ = some symbol :=
    exists_symbol?_of_lt hlt
  exact Nat.lt_irrefl _ (symbol?_eq_some_lt (h _ symbol hsymbol))

theorem symbol (h : s.RetainedIn s') {id : SymbolId} {symbol : Symbol}
    (hsymbol : s.symbol id = .ok symbol) : s'.symbol id = .ok symbol :=
  symbol_eq_ok_iff.2 (h id symbol (symbol_eq_ok_iff.1 hsymbol))

theorem typeSize (h : s.RetainedIn s') {id : SymbolId} {size : Nat}
    (hsize : s.typeSize id = .ok size) : s'.typeSize id = .ok size := by
  obtain ⟨symbol, hsymbol, hsize⟩ := Except.bind_eq_ok_iff.1 hsize
  rw [Scopes.typeSize, h.symbol hsymbol]
  exact hsize

theorem compareStep (h : s.RetainedIn s') {a b : SymbolId} {comparison : Comparison}
    (hstep : s.compareStep a b = .ok comparison) : s'.compareStep a b = .ok comparison := by
  unfold Scopes.compareStep at hstep ⊢
  split at hstep
  · next hsame => rwa [if_pos hsame]
  · next hdiffer =>
    obtain ⟨left, hleft, hstep⟩ := Except.bind_eq_ok_iff.1 hstep
    obtain ⟨right, hright, hstep⟩ := Except.bind_eq_ok_iff.1 hstep
    rw [if_neg hdiffer, h.symbol hleft, h.symbol hright]
    exact hstep

/-- A comparison that ends goes the same way with more symbols, and with more steps. -/
theorem compareWithin (h : s.RetainedIn s') {steps steps' : Nat} (hle : steps ≤ steps')
    {a b : SymbolId} {answer : Bool} (hanswer : s.compareWithin steps a b = .ok answer) :
    s'.compareWithin steps' a b = .ok answer := by
  induction steps generalizing steps' a b with
  | zero => cases hanswer
  | succ steps ih =>
    obtain ⟨more, rfl⟩ := Nat.exists_eq_add_of_le' hle
    obtain ⟨comparison, hstep, hrest⟩ := Except.bind_eq_ok_iff.1 hanswer
    rw [← Nat.add_assoc, Scopes.compareWithin, h.compareStep hstep]
    cases comparison with
    | decided equivalent => exact hrest
    | compare x y => exact ih (Nat.le_add_left _ _) hrest

theorem equivalent (h : s.RetainedIn s') {a b : SymbolId} {answer : Bool}
    (hanswer : s.equivalent a b = .ok answer) : s'.equivalent a b = .ok answer :=
  h.compareWithin (Nat.succ_le_succ (Nat.mul_self_le_mul_self h.size_le)) hanswer

end RetainedIn

/-! ## Symbols that are issued -/

/-- The symbols that requests are answered with, in order. -/
def issued (s : Scopes) (operations : List Operation) : List SymbolId :=
  (History.afterAll {} s operations).declarations.map (·.symbol)

/-- No symbol is issued twice, or issued again after it has been declared before. -/
theorem issued_fresh (s : Scopes) (operations : List Operation) :
    (s.issued operations).Nodup ∧ ∀ id ∈ s.issued operations, ¬ s.Declared id := by
  obtain ⟨count, -, hissued⟩ := numbers_afterAll {} s operations
  have heq : s.issued operations = (List.range' s.symbols.size count).map SymbolId.mk := hissued
  rw [heq]
  constructor
  · apply List.Pairwise.map _ _ List.nodup_range'
    exact fun _ _ hne hsame => hne (SymbolId.mk.inj hsame)
  · intro id hid
    obtain ⟨index, hindex, rfl⟩ := List.mem_map.1 hid
    exact Nat.not_lt.2 (List.mem_range'_1.1 hindex).1

/-! ## Main statement -/

/-- As long as no declared symbol is given a new descriptor, all there is to find out about declared
symbols can be found out, and it stays the same in every run that changes none of them: the symbols,
their sizes and which types are equivalent, whether or not the blocks are still open that they or
what they are built from were declared in. The symbols that are issued are others. -/
theorem types_outlive_blocks {depth : Nat} {before continuation : List Operation}
    (hbefore : ∀ operation ∈ before, operation.setsDescriptor = false)
    (hnew : ∀ operation ∈ continuation, ∀ id ∈ operation.target?,
      ¬ ((ofDepth depth).afterAll before).Declared id) :
    let s := (ofDepth depth).afterAll before
    let s' := s.afterAll continuation
    (∀ id, s.Declared id →
      (∃ symbol, s.symbol id = .ok symbol ∧ s'.symbol id = .ok symbol ∧
        s.symbol? id = some symbol ∧ s'.symbol? id = some symbol) ∧
      ∃ size, s.typeSize id = .ok size ∧ s'.typeSize id = .ok size) ∧
      (∀ a b, s.Declared a → s.Declared b →
        ∃ answer, s.equivalent a b = .ok answer ∧ s'.equivalent a b = .ok answer) ∧
      (s.issued continuation).Nodup ∧ ∀ id ∈ s.issued continuation, ¬ s.Declared id := by
  intro s s'
  have hs : s.Layered := layered_afterAll hbefore
  have hretained : s.RetainedIn s' := by
    apply (s.grows_afterAll continuation).retainedIn
    rintro id ⟨operation, hmem, htarget⟩
    exact hnew operation hmem id htarget
  refine ⟨?_, ?_, s.issued_fresh continuation⟩
  · intro id hid
    obtain ⟨symbol, hsymbol⟩ := exists_symbol?_of_lt hid
    have hok : s.symbol id = .ok symbol := symbol_eq_ok_iff.2 hsymbol
    have hsize : s.typeSize id = .ok symbol.typeSize := by
      rw [typeSize, hok]
      rfl
    exact ⟨⟨symbol, hok, hretained.symbol hok, hsymbol, hretained id symbol hsymbol⟩,
      symbol.typeSize, hsize, hretained.typeSize hsize⟩
  · intro a b ha hb
    obtain ⟨answer, hanswer, -⟩ := hs.equivalent_iff_alike ha hb
    exact ⟨answer, hanswer, hretained.equivalent hanswer⟩

/-- A struct with an array for a field and an alias of the array, declared in blocks that are closed
before another block is opened. There a new symbol becomes an alias of itself. -/
theorem types_outlive_blocks_closed :
    let s := (ofDepth 3).afterAll [.openBlock, .defineArray ⟨0⟩ int 3, .defineVariable ⟨1⟩ ⟨5⟩,
      .defineStruct ⟨2⟩ [⟨6⟩], .openBlock, .defineAlias ⟨0⟩ ⟨5⟩]
    let continuation : List Operation := [.closeBlock, .closeBlock, .closeBlock, .openBlock,
      .define ⟨0⟩, .setDescriptor ⟨9⟩ (.aliasOf ⟨9⟩ 0), .defineArray ⟨2⟩ ⟨7⟩ wordBound,
      .defineVariable ⟨1⟩ ⟨7⟩, .setValueType ⟨10⟩ char]
    let s' := s.afterAll continuation
    s'.symbol ⟨7⟩ = s.symbol ⟨7⟩ ∧ s'.typeSize ⟨7⟩ = .ok 3 ∧ s'.equivalent ⟨5⟩ ⟨8⟩ = .ok true ∧
      (s.issued continuation).Nodup := by
  intro s continuation s'
  obtain ⟨hsymbols, htypes, hnodup, -⟩ := @types_outlive_blocks 3 [.openBlock,
    .defineArray ⟨0⟩ int 3, .defineVariable ⟨1⟩ ⟨5⟩, .defineStruct ⟨2⟩ [⟨6⟩], .openBlock,
    .defineAlias ⟨0⟩ ⟨5⟩] continuation (by decide) (by decide)
  obtain ⟨⟨symbol, hsymbol, hsymbol', -⟩, size, hsize, hsize'⟩ := hsymbols ⟨7⟩ (by decide)
  obtain ⟨answer, hanswer, hanswer'⟩ := htypes ⟨5⟩ ⟨8⟩ (by decide) (by decide)
  obtain rfl : 3 = size := Except.ok.inj hsize
  obtain rfl : true = answer := Except.ok.inj hanswer
  exact ⟨hsymbol'.trans hsymbol.symm, hsize', hanswer', hnodup⟩

end BlockLang.Scopes
