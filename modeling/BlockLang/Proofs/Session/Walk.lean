-- SUMMARY: Following a text by the spelling of its names tells the same as by their numbers.
import BlockLang.Session
import BlockLang.Proofs.Lexer.Lexemes
import BlockLang.Proofs.Scopes.Resolution

namespace BlockLang.Session

/-!
# Following a text by its names

A `Walk` follows the lexemes of a text with nothing but a stack of frames, in which the texts of
names are bound to numbers that are counted up. It knows neither the table of names nor the symbols.
Driving a session is a loop that pulls and follows one token at a time (`Loops`), and it tells of
the same events as the walk: `drive_eq_events`.
-/

/-! ## The loop and the walk -/

/-- Pull a token and follow it with the names that are known by then, until the text ends or cannot
be read on. -/
inductive Loops : Lexer → Progress → List Event × Session → Prop
  | failed {l l' : Lexer} {p : Progress} {error : LexicalError}
      (hnext : l.next = (.error error, l')) :
      Loops l p (p.events.reverse ++ [.failed error], ⟨l', p.scopes⟩)
  | ended {l l' : Lexer} {p : Progress} {token : Token} (hnext : l.next = (.ok token, l'))
      (hend : token.isEnd) : Loops l p (p.events.reverse, ⟨l', p.scopes⟩)
  | token {l l' : Lexer} {p : Progress} {token : Token} {outcome : List Event × Session}
      (hnext : l.next = (.ok token, l')) (hend : token.isEnd = false)
      (others : Loops l' (p.step l'.tables.names token) outcome) : Loops l p outcome

/-- The names declared in one block with their symbols, the latest first. -/
abbrev Frame := List (String × SymbolId)

/-- How far the lexemes of a text have been followed. -/
structure Walk where
  /-- The frame of the current block. -/
  top : Frame := []
  /-- The frames of the blocks around it, from the inside out. -/
  below : List Frame := []
  /-- Whether the next identifier is declared. -/
  declaring : Bool := false
  /-- The number of the next symbol. The built-in types have those before it. -/
  next : Nat := 5
deriving DecidableEq, Repr

namespace Walk

/-- The frames of the open blocks, from the inside out. -/
def frames (w : Walk) : List Frame := w.top :: w.below

/-- The latest binding of a name in the innermost frame that has one. -/
def find? (w : Walk) (name : String) : Option SymbolId :=
  w.frames.findSome? (·.lookup name)

/-- Follow one lexeme, with at most `depth` frames. -/
def step (depth : Nat) (w : Walk) : Lexeme → Option Event × Walk
  | .mark .leftBrace =>
    if w.frames.length = depth then (some (.refused (.overflow depth)), w)
    else (some (.level w.frames.length), { w with top := [], below := w.frames })
  | .mark .rightBrace =>
    match w.below with
    | [] => (some (.refused .underflow), w)
    | outer :: rest => (some (.level rest.length), { w with top := outer, below := rest })
  | .keyword .var => (none, { w with declaring := true })
  | .identifier name =>
    if w.declaring then
      (some (.declared name ⟨w.next⟩),
        { w with top := (name, ⟨w.next⟩) :: w.top, declaring := false, next := w.next + 1 })
    else (some (.used name (w.find? name)), { w with declaring := false })
  | _ => (none, w)

/-- What following some lexemes tells of. -/
def events (depth : Nat) (w : Walk) : List Lexeme → List Event
  | [] => []
  | lexeme :: lexemes =>
    let (event, w) := w.step depth lexeme
    event.toList ++ w.events depth lexemes

end Walk

/-! ## Frames and levels -/

/-- A level finds for the number of a name what a frame binds the name to. -/
def Shows (names : NameTable) (level : Level) (frame : Frame) : Prop :=
  ∀ id name, names.name? id = some name → level.find? id = frame.lookup name

theorem shows_empty (names : NameTable) : Shows names {} [] :=
  fun _ _ _ => rfl

/-- Different names have different numbers, so declaring one hides no other. -/
theorem Shows.declare {names : NameTable} (hinverse : names.Inverse) {level : Level} {frame : Frame}
    (h : Shows names level frame) {id : NameId} {name : String} (hid : names.name? id = some name)
    (symbol : SymbolId) : Shows names (level.declare id symbol) ((name, symbol) :: frame) := by
  intro other text hother
  have hsame : other = id ↔ text = name := by
    constructor
    · rintro rfl
      exact Option.some.inj (hother.symm.trans hid)
    · rintro rfl
      exact hinverse.eq_of_name? hother hid
  rw [Level.find?_declare, List.lookup_cons, h other text hother]
  by_cases htext : text = name
  · rw [if_pos (hsame.2 htext), beq_iff_eq.2 htext]
  · rw [if_neg (mt hsame.1 htext), beq_eq_false_iff_ne.2 htext]

/-- The scopes and the frames of a walk have the same bindings, and both declare next or do not. -/
structure Matches (names : NameTable) (depth : Nat) (p : Progress) (w : Walk) : Prop where
  frames : List.Forall₂ (Shows names) p.scopes.levels w.frames
  declaring : p.declaring = w.declaring
  next : p.scopes.symbols.size = w.next
  maxDepth : p.scopes.maxDepth = depth
  length_le : w.frames.length ≤ depth

namespace Matches

variable {names : NameTable} {depth : Nat} {p : Progress} {w : Walk}

theorem length_eq (h : Matches names depth p w) : p.scopes.depth = w.frames.length :=
  h.frames.length_eq

/-- A name refers to what it is bound to. -/
theorem resolve?_eq (h : Matches names depth p w) {id : NameId} {name : String}
    (hid : names.name? id = some name) : p.scopes.resolve? id = w.find? name := by
  rw [Scopes.resolve?_eq_findSome?, Walk.find?]
  have hframes := h.frames
  generalize p.scopes.levels = levels at hframes
  generalize w.frames = frames at hframes
  induction hframes with
  | nil => rfl
  | cons hshows _ ih =>
    rw [List.findSome?_cons, List.findSome?_cons, hshows id name hid, ih]

end Matches

/-! ## One token -/

/-- After a token and its lexeme, scopes and frames match again, and both tell of the same. -/
structure Follows (names : NameTable) (depth : Nat) (p p' : Progress) (told : Option Event × Walk) :
    Prop where
  matching : Matches names depth p' told.2
  events : p'.events = told.1.toList ++ p.events

section Follows

variable {names : NameTable} {depth : Nat} {p : Progress} {w : Walk}

theorem follows_openBlock (h : Matches names depth p w) :
    Follows names depth p (p.changeLevel Scopes.openBlock) (w.step depth (.mark .leftBrace)) := by
  by_cases hfull : w.frames.length = depth
  · have hrefused : p.scopes.openBlock = .error (.overflow depth) := by
      simp [Scopes.openBlock, h.length_eq, h.maxDepth, hfull]
    simp only [Progress.changeLevel, hrefused, Walk.step, if_pos hfull]
    exact ⟨{ h with }, rfl⟩
  · have hlt : w.frames.length < depth := Nat.lt_of_le_of_ne h.length_le hfull
    have hopened : p.scopes.openBlock =
        .ok { p.scopes with
          current := {}, enclosing := p.scopes.current :: p.scopes.enclosing } := by
      simp [Scopes.openBlock, h.length_eq, h.maxDepth, hlt]
    simp only [Progress.changeLevel, hopened, Walk.step, if_neg hfull]
    constructor
    case matching => exact { h with frames := .cons (shows_empty names) h.frames, length_le := hlt }
    case events => exact congrArg (Event.level · :: p.events) h.length_eq

theorem follows_closeBlock (h : Matches names depth p w) :
    Follows names depth p (p.changeLevel Scopes.closeBlock) (w.step depth (.mark .rightBrace)) := by
  have hframes := h.frames
  unfold Scopes.levels Walk.frames at hframes
  obtain ⟨-, hbelow⟩ := List.forall₂_cons.1 hframes
  cases henclosing : p.scopes.enclosing with
  | nil =>
    have hnone : w.below = [] := by
      rw [henclosing] at hbelow
      exact List.forall₂_nil_left_iff.1 hbelow
    have hrefused : p.scopes.closeBlock = .error .underflow := by
      simp [Scopes.closeBlock, henclosing]
    simp only [Progress.changeLevel, hrefused, Walk.step, hnone]
    exact ⟨{ h with }, rfl⟩
  | cons outer rest =>
    rw [henclosing] at hbelow
    obtain ⟨frame, frames, hshows, hrest, hsome⟩ := List.forall₂_cons_left_iff.1 hbelow
    have hclosed : p.scopes.closeBlock =
        .ok { p.scopes with current := outer, enclosing := rest } := by
      simp [Scopes.closeBlock, henclosing]
    simp only [Progress.changeLevel, hclosed, Walk.step, hsome]
    constructor
    case matching =>
      have hlength := h.length_le
      simp only [Walk.frames, hsome, List.length_cons] at hlength
      exact { h with frames := .cons hshows hrest, length_le := Nat.le_of_succ_le hlength }
    case events => exact congrArg (Event.level · :: p.events) hrest.length_eq

theorem follows_identifier (hinverse : names.Inverse) (h : Matches names depth p w) {id : NameId}
    {name : String} (hid : names.name? id = some name) :
    Follows names depth p (p.identifier id name) (w.step depth (.identifier name)) := by
  cases hdeclaring : w.declaring with
  | true =>
    have hsymbol : (⟨p.scopes.symbols.size⟩ : SymbolId) = ⟨w.next⟩ := congrArg SymbolId.mk h.next
    obtain ⟨hcurrent, hbelow⟩ := List.forall₂_cons.1 h.frames
    simp only [Progress.identifier, h.declaring, Walk.step, hdeclaring, if_pos]
    constructor
    case matching =>
      refine { h with
        frames := .cons (hsymbol ▸ hcurrent.declare hinverse hid _) hbelow
        declaring := rfl
        next := ?_ }
      simp [Scopes.defineVariable, Scopes.add, Progress.record, h.next]
    case events => exact congrArg (Event.declared name · :: p.events) hsymbol
  | false =>
    simp only [Progress.identifier, h.declaring, Walk.step, hdeclaring, Bool.false_eq_true, if_neg,
      not_false_eq_true]
    constructor
    case matching => exact { h with declaring := h.declaring.trans hdeclaring }
    case events => exact congrArg (Event.used name · :: p.events) (h.resolve?_eq hid)

/-- Following a token and following its lexeme tell of the same. -/
theorem follows_step {tables : Tables} (hinverse : tables.names.Inverse)
    (h : Matches tables.names depth p w) {token : Token} {lexeme : Lexeme}
    (hstands : Lexer.Stands tables token lexeme) :
    Follows tables.names depth p (p.step tables.names token) (w.step depth lexeme) := by
  obtain ⟨kind, index, span⟩ := token
  obtain ⟨hkind, hpayload⟩ := hstands
  obtain rfl : kind = lexeme.kind := hkind
  cases lexeme with
  | keyword word =>
    cases word with
    | var => exact ⟨{ h with declaring := rfl }, rfl⟩
    | _ => exact ⟨h, rfl⟩
  | mark mark =>
    cases mark with
    | leftBrace => exact follows_openBlock h
    | rightBrace => exact follows_closeBlock h
    | _ => exact ⟨h, rfl⟩
  | identifier name =>
    obtain ⟨i, hindex, hname⟩ := hpayload
    obtain rfl : index = some i := hindex
    have hstep : p.step tables.names ⟨.identifier, some i, span⟩ = p.identifier ⟨i⟩ name := by
      simp [Progress.step, Token.name?, hname]
    change Follows _ _ _ (p.step tables.names ⟨.identifier, some i, span⟩) _
    rw [hstep]
    exact follows_identifier hinverse h hname
  | _ => exact ⟨h, rfl⟩

end Follows

/-! ## Whole texts -/

theorem step_of_isEnd {names : NameTable} {p : Progress} {token : Token} (hend : token.isEnd) :
    p.step names token = p := by
  have hkind : token.kind = .endOfInput := by simpa [Token.isEnd] using hend
  simp [Progress.step, Token.name?, hkind]

theorem drive_eq {l l' : Lexer} {tokens : List Token} {last : Lexer.Item}
    (h : l.Yields tokens last l') (scopes : Scopes) :
    let p := tokens.foldl (Progress.step l'.tables.names) { scopes }
    Session.drive ⟨l, scopes⟩ =
      (p.events.reverse ++ last.failure?.toList.map .failed, ⟨l', p.scopes⟩) := by
  rw [drive, h.drain_eq]
  cases last with
  | ok token =>
    have hend : token.isEnd := h.isLast
    simp [Except.toOption, step_of_isEnd hend]
  | error error => simp [Except.toOption]

theorem step_congr {names names' : NameTable} {token : Token}
    (h : ∀ id ∈ token.name?, names'.name? id = names.name? id) (p : Progress) :
    p.step names' token = p.step names token := by
  simp only [Progress.step]
  cases hname : token.name? with
  | none => rfl
  | some id => simp only [h id hname]

/-- A token that can be followed is followed in the same way when more is in the tables. -/
theorem step_eq_of_extends {tables tables' : Tables} (hextends : tables'.Extends tables)
    {token : Token} {lexeme : Lexeme} (h : Lexer.Stands tables token lexeme) (p : Progress) :
    p.step tables'.names token = p.step tables.names token := by
  apply step_congr
  intro id hid
  obtain ⟨hkind, hpayload⟩ := h
  have hpayload' := hpayload.mono hextends
  cases lexeme with
  | identifier name =>
    obtain ⟨i, hindex, hname⟩ := hpayload
    obtain ⟨j, hindex', hname'⟩ := hpayload'
    obtain rfl : i = j := Option.some.inj (hindex.symm.trans hindex')
    obtain rfl : ⟨i⟩ = id := by simpa [Token.name?, hkind, Lexeme.kind, hindex] using hid
    rw [hname, hname']
  | _ => simp [Token.name?, hkind, Lexeme.kind] at hid

/-- Following all tokens with the names that are known in the end is to follow each one as it is
pulled. -/
theorem loops_of_yields {l l' : Lexer} {tokens : List Token} {last : Lexer.Item}
    (h : l.Yields tokens last l') (hnames : l.tables.names.Inverse) (p : Progress) :
    let p' := tokens.foldl (Progress.step l'.tables.names) p
    Loops l p (p'.events.reverse ++ last.failure?.toList.map .failed, ⟨l', p'.scopes⟩) := by
  induction h generalizing p with
  | @last l l' item hnext hlast =>
    cases item with
    | ok token =>
      change Loops l p (p.events.reverse ++ [], ⟨l', p.scopes⟩)
      rw [List.append_nil]
      exact .ended hnext hlast
    | error error => exact .failed hnext
  | token hnext hend others ih =>
    obtain ⟨lexeme, hstands⟩ := Lexer.exists_stands hnames hnext hend
    rw [List.foldl_cons, step_eq_of_extends others.extends hstands]
    exact .token hnext hend (ih (Lexer.inverse_of_next hnext hnames) _)

/-- Following tokens and following their lexemes tell of the same. -/
theorem Matches.events_foldl {tables : Tables} (hinverse : tables.names.Inverse) {depth : Nat}
    {p : Progress} {w : Walk} (h : Matches tables.names depth p w) {tokens : List Token}
    {lexemes : List Lexeme} (hstands : List.Forall₂ (Lexer.Stands tables) tokens lexemes) :
    (tokens.foldl (Progress.step tables.names) p).events.reverse =
      p.events.reverse ++ w.events depth lexemes := by
  induction hstands generalizing p w with
  | nil => exact (List.append_nil _).symm
  | @cons token lexeme tokens lexemes hhead _ ih =>
    obtain ⟨hmatching, hevents⟩ := follows_step hinverse h hhead
    have htold : ∀ event : Option Event, event.toList.reverse = event.toList := by
      rintro (_ | event) <;> rfl
    rw [List.foldl_cons, ih hmatching, hevents, List.reverse_append, htold, Walk.events,
      List.append_assoc]

/-- A session that has not been driven yet matches a walk that has not begun. -/
theorem matches_ofDepth (names : NameTable) {depth : Nat} (hdepth : 1 ≤ depth) :
    Matches names depth { scopes := Scopes.ofDepth depth } {} where
  frames := .cons (shows_empty names) .nil
  declaring := rfl
  next := rfl
  maxDepth := rfl
  length_le := hdepth

/-- Driving a session from the start of a text runs the loop. It tells of what following the lexemes
by their names tells of, and of the error that keeps the text from being read on, if there is
one. -/
theorem drive_eq_events (source : String) (depth : Nat) (hdepth : 1 ≤ depth) :
    ∃ session, Session.create source { maxDepth := depth } = .ok session ∧
      Loops session.lexer { scopes := session.scopes } session.drive ∧
      session.drive.1 = Walk.events depth {} (Lexer.lexemes {} source.toList).1 ++
        (Lexer.lexemes {} source.toList).2.toList.map .failed := by
  have hcreate : Session.create source { maxDepth := depth } =
      .ok ⟨Lexer.ofString source, Scopes.ofDepth depth⟩ := by
    have hne : depth ≠ 0 := Nat.ne_of_gt hdepth
    simp [Session.create, Scopes.create, Config.validate, hne, Except.map]
  obtain ⟨tokens, last, l', hyields⟩ := Lexer.exists_yields (Lexer.ofString source)
  have hnames := Lexer.inverse_ofString source
  obtain ⟨hstands, hfailure⟩ := hyields.forall₂_stands rfl hnames
  have hinverse : l'.tables.names.Inverse := by
    rw [hyields.lexer_eq_after]
    exact Lexer.inverse_after hnames _
  refine ⟨_, hcreate, ?_, ?_⟩
  · rw [drive_eq hyields]
    exact loops_of_yields hyields hnames _
  · rw [drive_eq hyields, (matches_ofDepth _ hdepth).events_foldl hinverse hstands, ← hfailure]
    rfl

/-- A text that opens a block too many and closes one too many, with an error at its end. -/
theorem drive_eq_events_refused :
    1 ≤ 2 ∧ ∃ session,
      Session.create "var x \x7b x var x \x7b x \x7d \x7d x y \x7d '" { maxDepth := 2 } =
        .ok session ∧
      session.drive.1 =
        [.declared "x" ⟨5⟩, .level 1, .used "x" (some ⟨5⟩), .declared "x" ⟨6⟩,
          .refused (.overflow 2), .used "x" (some ⟨6⟩), .level 0, .refused .underflow,
          .used "x" (some ⟨5⟩), .used "y" none, .refused .underflow,
          .failed ⟨.expectedClosingQuote, ⟨30, 31, 1⟩⟩] := by
  have hdepth : 1 ≤ 2 := by decide
  obtain ⟨session, hcreate, -, hevents⟩ :=
    drive_eq_events "var x \x7b x var x \x7b x \x7d \x7d x y \x7d '" 2 hdepth
  refine ⟨hdepth, session, hcreate, hevents.trans ?_⟩
  decide +kernel

end BlockLang.Session
