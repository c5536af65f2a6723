-- SUMMARY: A block that has been closed leaves the levels around it as they were when it was opened.
import BlockLang.Session
import BlockLang.Proofs.Scopes.Growth

namespace BlockLang.Scopes

/-!
# Surroundings

While a block is open, the levels around it lie under all levels that are opened in it, and only the
innermost level is ever declared in or closed. So once the block is closed, the levels are those that
were open before it, and every name refers to what it referred to then: `RunsBlock.leaves_surroundings`.
-/

/-- A run that opens a block in `s`, makes the requests `inner` without leaving the block, and closes
it with its last request, which is made inside the block as well. -/
structure RunsBlock (s : Scopes) (inner : List Operation) : Prop where
  opens : ∃ opened, s.openBlock = .ok opened
  stays : Throughout (fun s' _ => s.level < s'.level) (s.after .openBlock) (inner ++ [.closeBlock])
  returns : (s.afterAll (.openBlock :: (inner ++ [.closeBlock]))).level = s.level

/-! ## Levels at the bottom -/

section Bottom

variable {s s' : Scopes} {bottom : List Level}

/-- Above the bottom there is a current level. -/
theorem suffix_enclosing_of_suffix_levels (h : bottom <:+ s.levels)
    (habove : bottom.length ≤ s.level) : bottom <:+ s.enclosing := by
  rcases List.suffix_cons_iff.1 h with heq | hsuffix
  · have hlength := congrArg List.length heq
    rw [List.length_cons] at hlength
    unfold level at habove
    omega
  · exact hsuffix

/-- A request does not reach further down than the current level. -/
theorem suffix_levels_of_step {operation : Operation} {answer : Answer}
    (h : bottom <:+ s.enclosing) (hstep : s.Step operation answer s') : bottom <:+ s'.levels := by
  cases hstep with
  | openBlock => exact (h.trans (List.suffix_cons _ _)).trans (List.suffix_cons _ _)
  | closeBlock henclosing =>
    rw [henclosing] at h
    exact h
  | declare => exact h.trans (List.suffix_cons _ _)
  | change => exact h.trans (List.suffix_cons _ _)

/-- A run that stays above the bottom leaves it as it is. -/
theorem suffix_levels_afterAll {operations : List Operation}
    (hrun : Throughout (fun s' _ => bottom.length ≤ s'.level) s operations)
    (h : bottom <:+ s.levels) : bottom <:+ (s.afterAll operations).levels := by
  apply hrun.afterAll_induction (Q := fun s' => bottom <:+ s'.levels) _ h
  intro s' operation answer s'' habove hbottom hstep
  exact suffix_levels_of_step (suffix_enclosing_of_suffix_levels hbottom habove) hstep

theorem levels_of_openBlock (h : s.openBlock = .ok s') : s'.levels = {} :: s.levels := by
  unfold openBlock at h
  split at h
  · obtain rfl := Except.ok.inj h
    rfl
  · cases h

theorem after_openBlock (h : s.openBlock = .ok s') : s.after .openBlock = s' := by
  rw [after, perform, h]
  rfl

end Bottom

/-! ## Main statement -/

variable {s : Scopes} {inner : List Operation}

/-- When a block is closed, the levels are those that were open before it. -/
theorem RunsBlock.levels_eq (h : s.RunsBlock inner) :
    (s.afterAll (.openBlock :: (inner ++ [.closeBlock]))).levels = s.levels := by
  obtain ⟨opened, hopened⟩ := h.opens
  have hbottom : s.levels <:+ (s.after .openBlock).levels := by
    rw [after_openBlock hopened, levels_of_openBlock hopened]
    exact List.suffix_cons _ _
  have hstays : Throughout (fun s' _ => s.levels.length ≤ s'.level) (s.after .openBlock)
      (inner ++ [.closeBlock]) := h.stays
  have hsuffix := suffix_levels_afterAll hstays hbottom
  -- The levels are still there at the bottom, and there are no others above them.
  have hlength : s.levels.length =
      (s.afterAll (.openBlock :: (inner ++ [.closeBlock]))).levels.length :=
    congrArg (· + 1) h.returns.symm
  exact (hsuffix.eq_of_length hlength).symm

theorem targets_block_iff {id : SymbolId} :
    Targets (.openBlock :: (inner ++ [.closeBlock])) id ↔ Targets inner id := by
  simp [Targets, Operation.target?]

/-- Whatever is done in a block, also where it does not go through, the levels are the same as before
when it has been closed, and so are the level, the declarations in it and what every name refers to.
The symbols that were there have their places and their names, and only those that were asked to be
changed are different symbols; what has been declared in the block comes behind them. -/
theorem RunsBlock.leaves_surroundings (h : s.RunsBlock inner) :
    let s' := s.afterAll (.openBlock :: (inner ++ [.closeBlock]))
    s'.levels = s.levels ∧ s'.level = s.level ∧ s'.current.symbols = s.current.symbols ∧
      (∀ name, s'.findLocal? name = s.findLocal? name ∧
        s'.findEnclosing? name = s.findEnclosing? name ∧
        ∀ lexer, Session.resolve? ⟨lexer, s'⟩ name = Session.resolve? ⟨lexer, s⟩ name) ∧
      s.symbolNames <+: s'.symbolNames ∧
      ∀ id, s.Declared id → ¬ Targets inner id → s'.symbol? id = s.symbol? id := by
  intro s'
  have hlevels : s'.levels = s.levels := h.levels_eq
  obtain ⟨hcurrent, henclosing⟩ := List.cons.inj hlevels
  have hlocal : ∀ name, s'.findLocal? name = s.findLocal? name :=
    fun name => congrArg (·.find? name) hcurrent
  have houter : ∀ name, s'.findEnclosing? name = s.findEnclosing? name :=
    fun name => congrArg (fun levels => levels.findSome? (·.find? name)) henclosing
  have hgrows := s.grows_afterAll (.openBlock :: (inner ++ [.closeBlock]))
  refine ⟨hlevels, h.returns, congrArg Level.symbols hcurrent, ?_, hgrows.names, ?_⟩
  · intro name
    refine ⟨hlocal name, houter name, fun lexer => ?_⟩
    rw [Session.resolve?, Session.resolve?, resolve?, resolve?, hlocal, houter]
  · intro id hid hinner
    exact hgrows.kept id hid (mt targets_block_iff.1 hinner)

/-- A block in which another one is opened and a third one refused, with declarations that shadow
those outside, a type that is too large, and a kind set for a symbol outside. -/
theorem RunsBlock.leaves_surroundings_nested :
    let s := (ofDepth 3).afterAll [.defineVariable ⟨0⟩ int, .define ⟨1⟩]
    let inner : List Operation := [.defineVariable ⟨0⟩ char, .openBlock, .openBlock, .define ⟨1⟩,
      .defineArray ⟨2⟩ int wordBound, .closeBlock, .setKind ⟨6⟩ .function, .define ⟨2⟩]
    let s' := s.afterAll (.openBlock :: (inner ++ [.closeBlock]))
    s.RunsBlock inner ∧ s'.levels = s.levels ∧ s'.findLocal? ⟨0⟩ = some ⟨5⟩ ∧
      s'.symbol? ⟨5⟩ = s.symbol? ⟨5⟩ ∧ s.symbolNames <+: s'.symbolNames := by
  intro s inner s'
  have hblock : s.RunsBlock inner := ⟨⟨_, rfl⟩, by decide, by decide⟩
  obtain ⟨hlevels, -, -, hnames, hprefix, hkept⟩ := hblock.leaves_surroundings
  have hvariable : s.findLocal? ⟨0⟩ = some ⟨5⟩ := by decide
  have hdeclared : s.Declared ⟨5⟩ := by decide
  have huntouched : ¬ Targets inner ⟨5⟩ := by simp [Targets, inner, Operation.target?]
  exact ⟨hblock, hlevels, (hnames ⟨0⟩).1.trans hvariable, hkept ⟨5⟩ hdeclared huntouched, hprefix⟩

end BlockLang.Scopes
