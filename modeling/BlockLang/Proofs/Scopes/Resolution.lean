-- SUMMARY: A name refers to the last live declaration of that name, wherever it was made.
import BlockLang.Session
import BlockLang.Proofs.Scopes.History
import Mathlib.Data.List.Induction

namespace BlockLang.Scopes

/-!
# Resolution

Blocks are searched one after the other, from the inside out. Since what is live was declared from
the outside in, the first declaration that is found this way is the last of all that are live.
-/

/-- `symbol` is the last of the declarations with the property `P`, if there is any. -/
def IsLatest (declarations : List Declaration) (P : Declaration → Prop) : Option SymbolId → Prop
  | none => ∀ d ∈ declarations, ¬ P d
  | some symbol => ∃ earlier d later, declarations = earlier ++ d :: later ∧ P d ∧
      d.symbol = symbol ∧ ∀ other ∈ later, ¬ P other

section IsLatest

variable {declarations : List Declaration} {P Q : Declaration → Prop} {found found' : Option SymbolId}

theorem IsLatest.congr (h : IsLatest declarations P found)
    (hiff : ∀ d ∈ declarations, P d ↔ Q d) : IsLatest declarations Q found := by
  cases found with
  | none => exact fun d hd hQ => h d hd ((hiff d hd).2 hQ)
  | some symbol =>
    obtain ⟨earlier, d, later, rfl, hP, hsymbol, hlater⟩ := h
    refine ⟨earlier, d, later, rfl, (hiff d (by simp)).1 hP, hsymbol, ?_⟩
    intro other hother hQ
    exact hlater other hother ((hiff other (by simp [hother])).2 hQ)

theorem isLatest_concat_of_pos {d : Declaration} (hd : P d) :
    IsLatest (declarations ++ [d]) P (some d.symbol) :=
  ⟨declarations, d, [], rfl, hd, rfl, by simp⟩

theorem IsLatest.concat_of_neg (h : IsLatest declarations P found) {d : Declaration}
    (hd : ¬ P d) : IsLatest (declarations ++ [d]) P found := by
  cases found with
  | none =>
    intro other hother
    rcases List.mem_append.1 hother with hother | hother
    · exact h other hother
    · obtain rfl := List.mem_singleton.1 hother
      exact hd
  | some symbol =>
    obtain ⟨earlier, e, later, rfl, hP, hsymbol, hlater⟩ := h
    refine ⟨earlier, e, later ++ [d], by simp, hP, hsymbol, ?_⟩
    intro other hother
    rcases List.mem_append.1 hother with hother | hother
    · exact hlater other hother
    · obtain rfl := List.mem_singleton.1 hother
      exact hd

/-- Of two searches the first decides, if nothing that it looks for is older than what the second
one looks for. -/
theorem IsLatest.orElse (hP : IsLatest declarations P found) (hQ : IsLatest declarations Q found')
    (horder : declarations.Pairwise fun earlier later => P earlier → ¬ Q later) :
    IsLatest declarations (fun d => P d ∨ Q d) (found <|> found') := by
  cases found with
  | none =>
    apply hQ.congr
    intro d hd
    rw [or_iff_right (hP d hd)]
  | some symbol =>
    obtain ⟨earlier, d, later, rfl, hd, hsymbol, hlater⟩ := hP
    refine ⟨earlier, d, later, rfl, Or.inl hd, hsymbol, ?_⟩
    intro other hother
    have hafter : ¬ Q other :=
      (List.pairwise_cons.1 (List.pairwise_append.1 horder).2.1).1 other hother hd
    exact not_or.2 ⟨hlater other hother, hafter⟩

end IsLatest

/-! ## Searching blocks -/

/-- A level finds the last of the declarations of its block. -/
theorem isLatest_level (h : History) (name : NameId) (block : Nat) :
    IsLatest h.declarations (fun d => d.name = name ∧ d.block = block)
      ((h.level block).find? name) := by
  rw [History.level]
  induction h.declarations using List.reverseRecOn with
  | nil => simp [IsLatest, levelOf]
  | append_singleton declarations d ih =>
    rw [List.filter_append]
    by_cases hblock : d.block = block
    · rw [List.filter_cons_of_pos (by simpa using hblock), List.filter_nil, levelOf_concat,
        Level.find?_declare]
      by_cases hname : name = d.name
      · rw [if_pos hname]
        exact isLatest_concat_of_pos ⟨hname.symm, hblock⟩
      · rw [if_neg hname]
        exact ih.concat_of_neg fun h => hname h.1.symm
    · rw [List.filter_cons_of_neg (by simpa using hblock), List.filter_nil, List.append_nil]
      exact ih.concat_of_neg fun h => hblock h.2

/-- A level lists all declarations of its block. -/
theorem symbols_levelOf (declarations : List Declaration) :
    (levelOf declarations).symbols = declarations.map (·.symbol) := by
  induction declarations using List.reverseRecOn with
  | nil => rfl
  | append_singleton declarations d ih =>
    rw [levelOf_concat, Level.symbols_declare, ih, List.map_append, List.map_singleton]

/-- Searching open blocks from the inside out. -/
theorem Agrees.isLatest_blocks {h : History} {s : Scopes} (hs : Agrees h s) (name : NameId)
    {blocks : List Nat} (hopen : ∀ block ∈ blocks, block ∈ h.blocks)
    (hinward : blocks.Pairwise (· > ·)) :
    IsLatest h.declarations (fun d => d.name = name ∧ d.block ∈ blocks)
      ((blocks.map h.level).findSome? (·.find? name)) := by
  induction blocks with
  | nil => simp [IsLatest]
  | cons block blocks ih =>
    obtain ⟨hinner, hinward⟩ := List.pairwise_cons.1 hinward
    have hrest := ih (fun other hother => hopen other (List.mem_cons_of_mem _ hother)) hinward
    have horder : h.declarations.Pairwise fun earlier later =>
        earlier.name = name ∧ earlier.block = block →
          ¬ (later.name = name ∧ later.block ∈ blocks) := by
      apply hs.ordered.imp
      rintro earlier later hle ⟨-, hearlier⟩ ⟨-, hlater⟩
      have hlive : h.Live earlier :=
        ((hs.isOpen _).1 (hopen _ (hearlier ▸ List.mem_cons_self))).2
      have hlive' : h.Live later :=
        ((hs.isOpen _).1 (hopen _ (List.mem_cons_of_mem _ hlater))).2
      have hlt : later.block < block := hinner _ hlater
      have := hle hlive hlive'
      omega
    have hboth := (isLatest_level h name block).orElse hrest horder
    have hsearch : ((block :: blocks).map h.level).findSome? (·.find? name) =
        ((h.level block).find? name <|> (blocks.map h.level).findSome? (·.find? name)) := by
      rw [List.map_cons, List.findSome?_cons]
      cases (h.level block).find? name <;> rfl
    rw [hsearch]
    apply hboth.congr
    intro d _
    rw [List.mem_cons]
    constructor
    · rintro (⟨hname, hblock⟩ | ⟨hname, hblock⟩)
      · exact ⟨hname, Or.inl hblock⟩
      · exact ⟨hname, Or.inr hblock⟩
    · rintro ⟨hname, hblock | hblock⟩
      · exact Or.inl ⟨hname, hblock⟩
      · exact Or.inr ⟨hname, hblock⟩

/-! ## What the open levels say -/

/-- The levels are searched from the inside out. -/
theorem resolve?_eq_findSome? (s : Scopes) (name : NameId) :
    s.resolve? name = s.levels.findSome? (·.find? name) := by
  rw [resolve?, findLocal?, findEnclosing?, levels, List.findSome?_cons]
  cases s.current.find? name <;> rfl

/-- Among the declarations that were made, the live ones are those of the open blocks. -/
theorem Agrees.mem_blocks_iff {h : History} {s : Scopes} (hs : Agrees h s) {d : Declaration}
    (hd : d ∈ h.declarations) : d.block ∈ h.blocks ↔ h.Live d := by
  rw [hs.isOpen]
  exact and_iff_right (hs.block_lt d hd)

theorem Agrees.mem_enclosing_iff {h : History} {s : Scopes} (hs : Agrees h s) {d : Declaration}
    (hd : d ∈ h.declarations) : d.block ∈ h.enclosing ↔ h.Live d ∧ d.block ≠ h.current := by
  rw [← hs.mem_blocks_iff hd, History.blocks, List.mem_cons]
  constructor
  · intro hmem
    have hlt : d.block < h.current := (List.pairwise_cons.1 hs.inward).1 _ hmem
    exact ⟨Or.inr hmem, Nat.ne_of_lt hlt⟩
  · rintro ⟨hmem, hne⟩
    exact hmem.resolve_left hne

theorem Agrees.current_eq {h : History} {s : Scopes} (hs : Agrees h s) :
    s.current = h.level h.current :=
  (List.cons.inj hs.levels).1

theorem Agrees.enclosing_eq {h : History} {s : Scopes} (hs : Agrees h s) :
    s.enclosing = h.enclosing.map h.level :=
  (List.cons.inj hs.levels).2

theorem Agrees.isLatest_findLocal {h : History} {s : Scopes} (hs : Agrees h s) (name : NameId) :
    IsLatest h.declarations (fun d => d.name = name ∧ d.block = h.current)
      (s.findLocal? name) := by
  rw [findLocal?, hs.current_eq]
  exact isLatest_level h name h.current

theorem Agrees.isLatest_findEnclosing {h : History} {s : Scopes} (hs : Agrees h s)
    (name : NameId) :
    IsLatest h.declarations (fun d => d.name = name ∧ h.Live d ∧ d.block ≠ h.current)
      (s.findEnclosing? name) := by
  rw [findEnclosing?, hs.enclosing_eq]
  have hlatest := hs.isLatest_blocks name
    (fun _ hblock => List.mem_cons_of_mem _ hblock) (List.pairwise_cons.1 hs.inward).2
  apply hlatest.congr
  intro d hd
  rw [hs.mem_enclosing_iff hd]

theorem Agrees.isLatest_resolve {h : History} {s : Scopes} (hs : Agrees h s) (name : NameId) :
    IsLatest h.declarations (fun d => d.name = name ∧ h.Live d) (s.resolve? name) := by
  rw [resolve?_eq_findSome?, hs.levels]
  have hlatest := hs.isLatest_blocks name (fun _ hblock => hblock) hs.inward
  apply hlatest.congr
  intro d hd
  rw [hs.mem_blocks_iff hd]

theorem Agrees.symbols_eq {h : History} {s : Scopes} (hs : Agrees h s) :
    s.current.symbols =
      (h.declarations.filter (·.block = h.current)).map (·.symbol) := by
  rw [hs.current_eq, History.level, symbols_levelOf]

/-- After every run, a name refers to the last live declaration of it: inside the current block to
the last one made there, around it to the last live one made elsewhere, and otherwise to nothing.
The current block lists all its declarations, also those that are shadowed. -/
theorem resolve_last_live (depth : Nat) (operations : List Operation) (lexer : Lexer)
    (name : NameId) :
    let s := (ofDepth depth).afterAll operations
    let h := History.afterAll {} (ofDepth depth) operations
    IsLatest h.declarations (fun d => d.name = name ∧ d.block = h.current) (s.findLocal? name) ∧
      IsLatest h.declarations (fun d => d.name = name ∧ h.Live d ∧ d.block ≠ h.current)
        (s.findEnclosing? name) ∧
      IsLatest h.declarations (fun d => d.name = name ∧ h.Live d)
        (Session.resolve? ⟨lexer, s⟩ name) ∧
      s.current.symbols = (h.declarations.filter (·.block = h.current)).map (·.symbol) := by
  intro s h
  have hs : Agrees h s := agrees_afterAll (agrees_ofDepth depth) operations
  exact ⟨hs.isLatest_findLocal name, hs.isLatest_findEnclosing name, hs.isLatest_resolve name,
    hs.symbols_eq⟩

end BlockLang.Scopes
