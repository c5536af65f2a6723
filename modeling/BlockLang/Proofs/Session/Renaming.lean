-- SUMMARY: Following a text with other names tells of the same events with the other names.
import BlockLang.Session
import BlockLang.Proofs.Lexer.Renaming
import BlockLang.Proofs.Scopes.Failure
import Mathlib.Data.List.Forall2
import Mathlib.Logic.Equiv.Basic

namespace BlockLang

/-!
# Renaming and sessions

Scopes know names by their numbers only, and these do not depend on how the names are written. A
session on a text with other names goes through the same scopes, and its events differ in the names
they tell of: `Renaming.drive_alike`.
-/

namespace Renaming

variable (r : Renaming)

/-- An event that tells of the other name. -/
def event : Event → Event
  | .declared name symbol => .declared (r.text name) symbol
  | .used name symbol => .used (r.text name) symbol
  | event => event

/-- The first event is told of in one text and the second in one with other names. Errors are met in
different places. -/
inductive TellsAlike : Event → Event → Prop
  | event (event : Event) : TellsAlike event (r.event event)
  | failed {error error' : LexicalError} (h : error'.fault = error.fault) :
      TellsAlike (.failed error) (.failed error')

/-- The events tell of the other names, and the scopes are the same. -/
def progress (p : Session.Progress) : Session.Progress :=
  { p with events := p.events.map r.event }

/-! ## One token -/

theorem changeLevel_progress (p : Session.Progress) (change : Scopes → Except ScopeError Scopes) :
    (r.progress p).changeLevel change = r.progress (p.changeLevel change) := by
  simp only [Session.Progress.changeLevel, progress]
  cases change p.scopes with
  | ok scopes => rfl
  | error error => rfl

theorem identifier_progress (p : Session.Progress) (id : NameId) (text : String) :
    (r.progress p).identifier id (r.text text) = r.progress (p.identifier id text) := by
  obtain ⟨scopes, declaring, events⟩ := p
  cases declaring with
  | true => rfl
  | false => rfl

/-- The empty text is no name, so it is kept where a table has no name. -/
theorem getD_name?_names (t : NameTable) (id : NameId) :
    ((r.names t).name? id).getD "" = r.text ((t.name? id).getD "") := by
  have hempty : r.text "" = "" := dif_neg (by decide)
  have hname : (r.names t).name? id = (t.name? id).map r.text := Array.getElem?_map
  rw [hname]
  cases t.name? id with
  | none => exact hempty.symm
  | some name => rfl

/-- The names are passed on to the events, and nothing else looks at them. -/
theorem step_progress (names : NameTable) (p : Session.Progress) {token token' : Token}
    (h : token'.entry = token.entry) :
    (r.progress p).step (r.names names) token' = r.progress (p.step names token) := by
  obtain ⟨kind, index, span⟩ := token
  obtain ⟨kind', index', span'⟩ := token'
  obtain ⟨rfl, rfl⟩ : kind' = kind ∧ index' = index := Prod.mk.inj h
  cases kind' with
  | keyword word =>
    cases word with
    | var => rfl
    | _ => rfl
  | mark mark =>
    cases mark with
    | leftBrace => exact r.changeLevel_progress p _
    | rightBrace => exact r.changeLevel_progress p _
    | _ => rfl
  | identifier =>
    cases index' with
    | none => rfl
    | some i =>
      change (r.progress p).identifier ⟨i⟩ (((r.names names).name? ⟨i⟩).getD "") = _
      rw [getD_name?_names]
      exact r.identifier_progress p ⟨i⟩ _
  | _ => rfl

theorem foldl_progress (names : NameTable) (p : Session.Progress) {tokens tokens' : List Token}
    (h : tokens'.map Token.entry = tokens.map Token.entry) :
    tokens'.foldl (Session.Progress.step (r.names names)) (r.progress p) =
      r.progress (tokens.foldl (Session.Progress.step names) p) := by
  induction tokens generalizing tokens' p with
  | nil =>
    obtain rfl := List.map_eq_nil_iff.1 h
    rfl
  | cons token tokens ih =>
    obtain ⟨token', others, rfl, hhead, htail⟩ := List.map_eq_cons_iff.1 h
    rw [List.foldl_cons, List.foldl_cons, step_progress r names p hhead]
    exact ih _ htail

/-! ## Whole texts -/

theorem forall₂_tellsAlike (events : List Event) :
    List.Forall₂ r.TellsAlike events (events.map r.event) :=
  List.forall₂_map_right_iff.2 (List.forall₂_same.2 fun event _ => .event event)

variable {r}

theorem forall₂_failed {failure failure' : Option LexicalError}
    (h : failure'.map (·.fault) = failure.map (·.fault)) :
    List.Forall₂ r.TellsAlike (failure.toList.map .failed) (failure'.toList.map .failed) := by
  cases failure with
  | none =>
    obtain rfl := Option.map_eq_none_iff.1 h
    exact .nil
  | some error =>
    obtain ⟨error', rfl, herror⟩ := Option.map_eq_some_iff.1 h
    exact .cons (.failed herror) .nil

/-- Texts that are read alike are followed alike, whatever is open and declared before them. -/
theorem ReadAlike.drive {l l' : Lexer} (h : r.ReadAlike l.drain l'.drain) (scopes : Scopes) :
    List.Forall₂ r.TellsAlike (Session.drive ⟨l, scopes⟩).1 (Session.drive ⟨l', scopes⟩).1 ∧
      (Session.drive ⟨l', scopes⟩).2.scopes = (Session.drive ⟨l, scopes⟩).2.scopes := by
  obtain ⟨hentries, hfailure, htables⟩ := h
  have hfollowed : l'.drain.tokens.foldl (Session.Progress.step l'.drain.lexer.tables.names)
      { scopes } = r.progress
        (l.drain.tokens.foldl (Session.Progress.step l.drain.lexer.tables.names) { scopes }) := by
    rw [htables]
    exact r.foldl_progress l.drain.lexer.tables.names { scopes } hentries
  simp only [Session.drive, hfollowed]
  refine ⟨List.rel_append ?_ (forall₂_failed hfailure), rfl⟩
  rw [progress, ← List.map_reverse]
  exact r.forall₂_tellsAlike _

/-- If a text renders some lexemes and another one renders the same lexemes with other names, both
are read as the same tokens with the same indices, the table has the other names in the places of
the names, and sessions on them tell of the same events with the other names. -/
theorem drive_alike (r : Renaming) {lexemes : List Lexeme}
    (hlexemes : ∀ lexeme ∈ lexemes, lexeme.WellFormed) {layout layout' : Layout}
    (h : layout.Renders lexemes) (h' : layout'.Renders (lexemes.map r.lexeme)) :
    r.ReadAlike (Lexer.ofString layout.text).drain (Lexer.ofString layout'.text).drain ∧
      ∀ depth, 1 ≤ depth → ∃ session session',
        Session.create layout.text { maxDepth := depth } = .ok session ∧
        Session.create layout'.text { maxDepth := depth } = .ok session' ∧
        List.Forall₂ r.TellsAlike session.drive.1 session'.drive.1 ∧
        session'.drive.2.scopes = session.drive.2.scopes := by
  have halike := r.readAlike_drain hlexemes h h'
  refine ⟨halike, ?_⟩
  intro depth hdepth
  have hcreate : ∀ source, Session.create source { maxDepth := depth } =
      .ok ⟨Lexer.ofString source, Scopes.ofDepth depth⟩ := by
    intro source
    rw [Session.create, Scopes.create_of_le hdepth]
    rfl
  obtain ⟨hevents, hscopes⟩ := halike.drive (Scopes.ofDepth depth)
  exact ⟨_, _, hcreate _, hcreate _, hevents, hscopes⟩

/-- Two names of different lengths are swapped, the blanks are others, and a numeral that is too large
ends both texts. -/
theorem drive_alike_swap :
    let r : Renaming := (Equiv.swap ⟨"x", by decide⟩ ⟨"total", by decide⟩).toEmbedding
    let lexemes : List Lexeme := [.keyword .var, .identifier "x", .mark .leftBrace,
      .identifier "y", .identifier "x", .mark .rightBrace, .numeral "99999999999999999999"]
    let layout : Layout := ⟨[], [(.keyword .var, [' ']), (.identifier "x", []),
      (.mark .leftBrace, []), (.identifier "y", [' ']), (.identifier "x", []),
      (.mark .rightBrace, []), (.numeral "99999999999999999999", [])]⟩
    let layout' : Layout := ⟨['\n'], [(.keyword .var, ['\t']), (.identifier "total", [' ']),
      (.mark .leftBrace, ['\n']), (.identifier "y", ['\n']), (.identifier "total", ['\n']),
      (.mark .rightBrace, [' ']), (.numeral "99999999999999999999", ['\n'])]⟩
    ((∀ lexeme ∈ lexemes, lexeme.WellFormed) ∧ layout.Renders lexemes ∧
      layout'.Renders (lexemes.map r.lexeme)) ∧
      r.ReadAlike (Lexer.ofString layout.text).drain (Lexer.ofString layout'.text).drain ∧
      (Lexer.ofString layout'.text).drain.lexer.tables.names.names = #["total", "y"] ∧
      ∃ session session', Session.create layout.text { maxDepth := 2 } = .ok session ∧
        Session.create layout'.text { maxDepth := 2 } = .ok session' ∧
        List.Forall₂ r.TellsAlike session.drive.1 session'.drive.1 := by
  intro r lexemes layout layout'
  have hlexemes : ∀ lexeme ∈ lexemes, lexeme.WellFormed := by decide +kernel
  have h : layout.Renders lexemes := ⟨by decide +kernel, by decide +kernel, rfl, by decide +kernel⟩
  have h' : layout'.Renders (lexemes.map r.lexeme) :=
    ⟨by decide +kernel, by decide +kernel, by decide +kernel, by decide +kernel⟩
  obtain ⟨halike, hdrive⟩ := drive_alike r hlexemes h h'
  obtain ⟨session, session', hcreate, hcreate', hevents, -⟩ := hdrive 2 (by decide)
  refine ⟨⟨hlexemes, h, h'⟩, halike, ?_, session, session', hcreate, hcreate', hevents⟩
  rw [halike.tables]
  decide +kernel

end Renaming

end BlockLang
