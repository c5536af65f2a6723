-- SUMMARY: The declarations of a run and the blocks they were made in, and how the open levels follow from them.
import BlockLang.Proofs.Scopes.Step

namespace BlockLang.Scopes

/-!
# History

Blocks are numbered in the order in which they are opened, so no two share a number. The history of
a run knows for every declaration, in order, the block that it was made in, and which blocks have
been closed. `Agrees` says that each open level holds exactly the declarations of its block.
-/

/-- A declaration that was made in the block with the number `block`. -/
structure Declaration where
  name : NameId
  symbol : SymbolId
  block : Nat
deriving DecidableEq, Repr

/-- What happened in a run. -/
structure History where
  /-- All declarations, in the order in which they were made. -/
  declarations : List Declaration := []
  /-- The number of the current block. The outermost block has number zero. -/
  current : Nat := 0
  /-- The numbers of the blocks around it, from the inside out. -/
  enclosing : List Nat := []
  /-- How many blocks have been opened, the outermost one included. -/
  opened : Nat := 1
  /-- The numbers of the blocks that have been closed. -/
  closed : List Nat := []
deriving DecidableEq, Repr

/-- The level in which some declarations were made, and no others. -/
def levelOf (declarations : List Declaration) : Level :=
  declarations.foldl (fun l d => l.declare d.name d.symbol) {}

namespace History

/-- The block in which the declaration was made has not been closed. -/
def Live (h : History) (d : Declaration) : Prop :=
  d.block ∉ h.closed

def declare (h : History) (name : NameId) (symbol : SymbolId) : History :=
  { h with declarations := h.declarations ++ [⟨name, symbol, h.current⟩] }

/-- The history after a request that was answered. -/
def record (h : History) : Operation → Answer → History
  | .openBlock, _ =>
    { h with current := h.opened, enclosing := h.current :: h.enclosing, opened := h.opened + 1 }
  | .closeBlock, _ =>
    match h.enclosing with
    | [] => h
    | outer :: rest => { h with current := outer, enclosing := rest, closed := h.current :: h.closed }
  | .define name, .symbol id | .defineVariable name _, .symbol id | .defineAlias name _, .symbol id
  | .defineArray name _ _, .symbol id | .defineStruct name _, .symbol id => h.declare name id
  | _, _ => h

/-- The history after a request in the scopes `s`. One that does not go through leaves no trace. -/
def after (h : History) (s : Scopes) (operation : Operation) : History :=
  match s.perform operation with
  | .ok (answer, _) => h.record operation answer
  | .error _ => h

/-- The history after a list of requests, the first of them in the scopes `s`. -/
def afterAll (h : History) (s : Scopes) : List Operation → History
  | [] => h
  | operation :: operations => (h.after s operation).afterAll (s.after operation) operations

/-- The blocks that are open, from the inside out. -/
def blocks (h : History) : List Nat := h.current :: h.enclosing

def level (h : History) (block : Nat) : Level :=
  levelOf (h.declarations.filter (·.block = block))

end History

/-- The open levels are those of the open blocks, which lie inside blocks opened before them, and
what is still live was declared from the outside in. -/
structure Agrees (h : History) (s : Scopes) : Prop where
  levels : s.levels = h.blocks.map h.level
  inward : h.blocks.Pairwise (· > ·)
  isOpen : ∀ block, block ∈ h.blocks ↔ block < h.opened ∧ block ∉ h.closed
  closed_lt : ∀ block ∈ h.closed, block < h.opened
  block_lt : ∀ d ∈ h.declarations, d.block < h.opened
  ordered : h.declarations.Pairwise fun earlier later =>
    h.Live earlier → h.Live later → earlier.block ≤ later.block

/-! ## One request -/

theorem record_of_declares {s : Scopes} {operation : Operation} {name : NameId} {symbol : Symbol}
    (hdeclares : s.Declares operation name symbol) (h : History) (id : SymbolId) :
    h.record operation (.symbol id) = h.declare name id := by
  cases hdeclares <;> rfl

theorem record_of_changes {operation : Operation} {id : SymbolId} {f : Symbol → Symbol}
    (hchanges : Changes operation id f) (h : History) : h.record operation .done = h := by
  cases hchanges <;> rfl

theorem levelOf_concat (declarations : List Declaration) (d : Declaration) :
    levelOf (declarations ++ [d]) = (levelOf declarations).declare d.name d.symbol := by
  simp [levelOf]

theorem level_declare (h : History) (name : NameId) (id : SymbolId) (block : Nat) :
    (h.declare name id).level block =
      if h.current = block then (h.level block).declare name id else h.level block := by
  unfold History.level History.declare
  rw [List.filter_append]
  split <;> simp [levelOf_concat, *]

/-- A block that is opened has no declarations. -/
theorem level_eq_of_forall_lt {h : History} {block : Nat}
    (hlt : ∀ d ∈ h.declarations, d.block < block) : h.level block = {} := by
  have hnone : h.declarations.filter (·.block = block) = [] := by
    rw [List.filter_eq_nil_iff]
    intro d hd
    have := hlt d hd
    simp
    omega
  rw [History.level, hnone]
  rfl

theorem Agrees.current_le {h : History} {s : Scopes} (hs : Agrees h s) :
    ∀ block ∈ h.blocks, block ≤ h.current := by
  intro block hblock
  rcases List.mem_cons.1 hblock with rfl | hblock
  · exact Nat.le_refl _
  · exact Nat.le_of_lt ((List.pairwise_cons.1 hs.inward).1 block hblock)

theorem Agrees.lt_opened {h : History} {s : Scopes} (hs : Agrees h s) {block : Nat}
    (hblock : block ∈ h.blocks) : block < h.opened :=
  ((hs.isOpen block).1 hblock).1

theorem agrees_openBlock {h : History} {s : Scopes} {answer : Answer} (hs : Agrees h s) :
    Agrees (h.record .openBlock answer)
      { s with current := {}, enclosing := s.current :: s.enclosing } where
  levels := by
    have hempty : h.level h.opened = {} := level_eq_of_forall_lt hs.block_lt
    have hlevels : ({} : Level) :: s.levels = h.level h.opened :: h.blocks.map h.level := by
      rw [hempty, hs.levels]
    exact hlevels
  inward := List.pairwise_cons.2 ⟨fun _ hblock => hs.lt_opened hblock, hs.inward⟩
  isOpen := by
    intro block
    have hnew : h.opened ∉ h.closed := fun hclosed => Nat.lt_irrefl _ (hs.closed_lt _ hclosed)
    change block ∈ h.opened :: h.blocks ↔ block < h.opened + 1 ∧ block ∉ h.closed
    rw [List.mem_cons, hs.isOpen]
    constructor
    · rintro (rfl | ⟨hlt, hopen⟩)
      · exact ⟨Nat.lt_succ_self _, hnew⟩
      · exact ⟨Nat.lt_succ_of_lt hlt, hopen⟩
    · rintro ⟨hlt, hopen⟩
      rcases Nat.lt_or_eq_of_le (Nat.le_of_lt_succ hlt) with hlt | rfl
      · exact Or.inr ⟨hlt, hopen⟩
      · exact Or.inl rfl
  closed_lt := fun block hclosed => Nat.lt_succ_of_lt (hs.closed_lt block hclosed)
  block_lt := fun d hd => Nat.lt_succ_of_lt (hs.block_lt d hd)
  ordered := hs.ordered

theorem agrees_closeBlock {h : History} {s : Scopes} {answer : Answer} {outer : Level}
    {rest : List Level} (hs : Agrees h s) (henclosing : s.enclosing = outer :: rest) :
    Agrees (h.record .closeBlock answer) { s with current := outer, enclosing := rest } := by
  have hlevels := hs.levels
  unfold levels History.blocks at hlevels
  rw [henclosing, List.map_cons, List.cons.injEq] at hlevels
  obtain ⟨block, blocks, hblocks, houter, hrest⟩ := List.map_eq_cons_iff.1 hlevels.2.symm
  have hrecord : h.record .closeBlock answer =
      { h with current := block, enclosing := blocks, closed := h.current :: h.closed } := by
    unfold History.record
    rw [hblocks]
  have hsplit : h.blocks = h.current :: block :: blocks := congrArg _ hblocks
  have hinward := hs.inward
  rw [hsplit, List.pairwise_cons] at hinward
  rw [hrecord]
  constructor
  case levels =>
    have hlevels : outer :: rest = h.level block :: blocks.map h.level := by rw [houter, hrest]
    exact hlevels
  case inward => exact hinward.2
  case isOpen =>
    intro other
    have hopen := hs.isOpen other
    rw [hsplit, List.mem_cons] at hopen
    have hne : other ∈ block :: blocks → other ≠ h.current :=
      fun hmem => Nat.ne_of_lt (hinward.1 other hmem)
    change other ∈ block :: blocks ↔ other < h.opened ∧ other ∉ h.current :: h.closed
    have hclosed : other ∉ h.current :: h.closed ↔ other ≠ h.current ∧ other ∉ h.closed := by
      simp
    rw [hclosed]
    constructor
    · intro hmem
      obtain ⟨hlt, hother⟩ := hopen.1 (Or.inr hmem)
      exact ⟨hlt, hne hmem, hother⟩
    · rintro ⟨hlt, hcurrent, hother⟩
      exact (hopen.2 ⟨hlt, hother⟩).resolve_left hcurrent
  case closed_lt =>
    intro other hclosed
    rcases List.mem_cons.1 hclosed with rfl | hclosed
    · exact hs.lt_opened List.mem_cons_self
    · exact hs.closed_lt other hclosed
  case block_lt => exact hs.block_lt
  case ordered =>
    apply hs.ordered.imp
    intro earlier later hle hearlier hlater
    apply hle
    · exact fun hclosed => hearlier (List.mem_cons_of_mem _ hclosed)
    · exact fun hclosed => hlater (List.mem_cons_of_mem _ hclosed)

theorem agrees_declare {h : History} {s : Scopes} {name : NameId} {symbol : Symbol}
    (hs : Agrees h s) : Agrees (h.declare name ⟨s.symbols.size⟩) (s.add name symbol).2 where
  levels := by
    have hlevels := hs.levels
    unfold levels History.blocks at hlevels
    rw [List.map_cons, List.cons.injEq] at hlevels
    change s.current.declare name ⟨s.symbols.size⟩ :: s.enclosing =
      (h.declare name ⟨s.symbols.size⟩).level h.current :: h.enclosing.map _
    rw [level_declare, if_pos rfl, hlevels.1, hlevels.2]
    congr 1
    apply List.map_congr_left
    intro block hblock
    have hlt : block < h.current := (List.pairwise_cons.1 hs.inward).1 block hblock
    rw [level_declare, if_neg (Nat.ne_of_gt hlt)]
  inward := hs.inward
  isOpen := hs.isOpen
  closed_lt := hs.closed_lt
  block_lt := by
    intro d hd
    rcases List.mem_append.1 hd with hd | hd
    · exact hs.block_lt d hd
    · obtain rfl := List.mem_singleton.1 hd
      exact hs.lt_opened List.mem_cons_self
  ordered := by
    refine List.pairwise_append.2 ⟨hs.ordered, List.pairwise_singleton _ _, ?_⟩
    -- What is live lies in an open block, and the current one is the innermost of them.
    intro earlier hearlier later hlater hlive _
    obtain rfl := List.mem_singleton.1 hlater
    exact hs.current_le _ ((hs.isOpen _).2 ⟨hs.block_lt earlier hearlier, hlive⟩)

theorem agrees_step {h : History} {s s' : Scopes} {operation : Operation} {answer : Answer}
    (hs : Agrees h s) (hstep : s.Step operation answer s') :
    Agrees (h.record operation answer) s' := by
  cases hstep with
  | openBlock => exact agrees_openBlock hs
  | closeBlock henclosing => exact agrees_closeBlock hs henclosing
  | declare hdeclares =>
    rw [record_of_declares hdeclares]
    exact agrees_declare hs
  | change hchanges =>
    rw [record_of_changes hchanges]
    exact { hs with levels := hs.levels }

theorem agrees_after {h : History} {s : Scopes} (hs : Agrees h s) (operation : Operation) :
    Agrees (h.after s operation) (s.after operation) := by
  unfold History.after Scopes.after
  cases hperform : s.perform operation with
  | error fault => exact hs
  | ok result =>
    obtain ⟨answer, s'⟩ := result
    exact agrees_step hs (step_of_perform hperform)

/-! ## Runs -/

theorem agrees_afterAll {h : History} {s : Scopes} (hs : Agrees h s) (operations : List Operation) :
    Agrees (h.afterAll s operations) (s.afterAll operations) := by
  induction operations generalizing h s with
  | nil => exact hs
  | cons operation operations ih => exact ih (agrees_after hs operation)

theorem agrees_ofDepth (depth : Nat) : Agrees {} (ofDepth depth) where
  levels := rfl
  inward := List.pairwise_singleton _ _
  isOpen := by simp [History.blocks]
  closed_lt := by simp
  block_lt := by simp
  ordered := List.Pairwise.nil

end BlockLang.Scopes
