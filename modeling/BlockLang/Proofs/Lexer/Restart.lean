-- SUMMARY: Reading a text on from behind a token is like reading the rest of it from the start.
import BlockLang.Proofs.Lexer.Lexemes

namespace BlockLang

/-!
# Restart

Between two tokens a lexer carries nothing over but its place and its tables. A lexer that starts
with the rest of the text has read the same when it is at the same place, except that it counts
places from there and numbers names and literals anew: `restarts_drain`.
-/

/-! ## What is read before the rest -/

/-- What a lexer has behind it when it comes to the rest of a text. -/
structure Head where
  /-- The number of characters read. -/
  chars : Nat
  /-- The number of line feeds among them. -/
  lines : Nat
  /-- The literals recorded. -/
  literals : LiteralTables
deriving DecidableEq, Repr

namespace Head

variable (head : Head)

/-- Where a place of the rest is in the whole text. -/
def position (p : Position) : Position :=
  ⟨head.chars + p.offset, head.lines + p.line⟩

def span (s : Span) : Span :=
  ⟨head.chars + s.start, head.chars + s.stop, head.lines + s.line⟩

def error (e : LexicalError) : LexicalError :=
  { e with span := head.span e.span }

theorem advance_position (p : Position) (text : List Char) :
    (head.position p).advance text = head.position (p.advance text) := by
  simp [position, Position.advance, Nat.add_assoc]

theorem position_to_position (p q : Position) :
    (head.position p).to (head.position q) = head.span (p.to q) :=
  rfl

end Head

/-! ## Literals behind others -/

namespace LiteralTables

/-- The literals of one text and then those of another. -/
def append (t t' : LiteralTables) : LiteralTables :=
  ⟨t.numerals ++ t'.numerals, t.strings ++ t'.strings, t.characters ++ t'.characters⟩

def count (t : LiteralTables) : Token.Kind → Nat
  | .numeral => t.numerals.size
  | .stringLiteral => t.strings.size
  | .character => t.characters.size
  | _ => 0

theorem append_empty (t : LiteralTables) : t.append {} = t := by
  simp [append]

end LiteralTables

namespace Tables

variable {t t' : Tables} {literals : LiteralTables}

/-- Literals are recorded in the same way, whatever has been recorded before. -/
theorem literals_record (h : t'.literals = literals.append t.literals) (lexeme : Lexeme) :
    (t'.record lexeme).2.literals = literals.append (t.record lexeme).2.literals := by
  cases lexeme with
  | numeral digits => simp [record, LiteralTables.addNumeral, LiteralTables.append, h]
  | stringLiteral contents => simp [record, LiteralTables.addString, LiteralTables.append, h]
  | character c => simp [record, LiteralTables.addCharacter, LiteralTables.append, h]
  | keyword _ | identifier _ | mark _ | unknown _ => exact h

/-- Literals get indices that go on from those of the literals before. -/
theorem index_record (h : t'.literals = literals.append t.literals) {lexeme : Lexeme}
    (hkind : lexeme.kind ≠ .identifier) :
    (t'.record lexeme).1 = (t.record lexeme).1.map (literals.count lexeme.kind + ·) := by
  cases lexeme with
  | identifier name => exact absurd rfl hkind
  | numeral digits => simp [record, LiteralTables.addNumeral, LiteralTables.append, h, Lexeme.kind,
      LiteralTables.count]
  | stringLiteral contents => simp [record, LiteralTables.addString, LiteralTables.append, h,
      Lexeme.kind, LiteralTables.count]
  | character c => simp [record, LiteralTables.addCharacter, LiteralTables.append, h, Lexeme.kind,
      LiteralTables.count]
  | keyword _ | mark _ | unknown _ => rfl

end Tables

namespace Lexer

/-! ## One item -/

/-- `t` is a token of the rest of a text, and `t'` is the same one of the whole text. -/
structure MovesToken (head : Head) (tables tables' : Tables) (t t' : Token) : Prop where
  kind : t'.kind = t.kind
  span : t'.span = head.span t.span
  /-- All indices but those of names go on from the literals before. -/
  index : t.kind ≠ .identifier → t'.index = t.index.map (head.literals.count t.kind + ·)
  /-- Both tokens have the same payload. In particular identifiers have the same name. -/
  entry : t.isEnd = false → ∃ lexeme, Stands tables t lexeme ∧ Stands tables' t' lexeme

/-- The first item is one of the rest of a text, and the second is the same one of the whole text. -/
inductive Moves (head : Head) (tables tables' : Tables) : Item → Item → Prop
  | token {t t' : Token} (h : MovesToken head tables tables' t t') :
      Moves head tables tables' (.ok t) (.ok t')
  | error {error : LexicalError} : Moves head tables tables' (.error error) (.error (head.error error))

theorem MovesToken.isEnd_eq {head : Head} {tables tables' : Tables} {t t' : Token}
    (h : MovesToken head tables tables' t t') : t'.isEnd = t.isEnd := by
  rw [Token.isEnd, Token.isEnd, h.kind]

/-! ## Two lexers side by side -/

/-- `l` has come as far in the rest of a text as `l'` has in the whole text. -/
structure Follows (head : Head) (l l' : Lexer) : Prop where
  rest : l'.rest = l.rest
  position : l'.position = head.position l.position
  literals : l'.tables.literals = head.literals.append l.tables.literals
  names : l.tables.names.Inverse
  names' : l'.tables.names.Inverse

namespace Follows

variable {head : Head} {l l' m : Lexer} {item : Item}

theorem place (h : Follows head l l') (text : List Char) :
    l'.position.advance text = head.position (l.position.advance text) := by
  rw [h.position, head.advance_position]

/-- Lexers that are at the same place pull the same item, and are at the same place again. The item
is the same in all tables that come later. -/
theorem next (h : Follows head l l') (active : l.state = .active) (active' : l'.state = .active)
    (hnext : l.next = (item, m)) :
    ∃ item' m', l'.next = (item', m') ∧ Follows head m m' ∧
      ∀ tables tables', tables.Extends m.tables → tables'.Extends m'.tables →
        Moves head tables tables' item item' := by
  cases pull_of_next hnext with
  | halted hhalted => cases active.symm.trans hhalted
  | finished hfinished => cases active.symm.trans hfinished
  | finish _ hblanks =>
    have hsplits : Text.Splits Text.isBlank l'.rest l.rest [] :=
      ⟨by rw [h.rest, List.append_nil], hblanks, by simp⟩
    refine ⟨_, _, next_of_splits active' hsplits, ⟨rfl, h.place _, h.literals, h.names, h.names'⟩, ?_⟩
    intro tables tables' _ _
    refine .token ⟨rfl, ?_, fun _ => rfl, nofun⟩
    simp only [h.place]
    rfl
  | @lexeme _ lexeme blanks rest hsplits hread =>
    rw [← h.rest] at hsplits
    have hnext' := next_of_splits active' hsplits
    rw [readToken_of_lexeme hread, h.place] at hnext'
    have hfollows : Follows head (afterLexeme l.tables (l.position.advance blanks) lexeme rest)
        (afterLexeme l'.tables (head.position (l.position.advance blanks)) lexeme rest) :=
      ⟨rfl, head.advance_position _ _, Tables.literals_record h.literals _,
        Tables.inverse_record h.names _, Tables.inverse_record h.names' _⟩
    refine ⟨_, _, hnext', hfollows, ?_⟩
    intro tables tables' hextends hextends'
    refine .token ⟨rfl, ?_, Tables.index_record h.literals, fun _ => ⟨lexeme, ?_, ?_⟩⟩
    · simp only [tokenAt, head.advance_position, head.position_to_position]
    · exact (stands_tokenAt h.names _ _).mono hextends
    · exact (stands_tokenAt h.names' _ _).mono hextends'
  | @fault _ fault blanks consumed rest error hsplits hread herror =>
    rw [← h.rest] at hsplits
    have hnext' := next_of_splits active' hsplits
    rw [readToken_of_fault hread rfl, h.place, head.advance_position,
      head.position_to_position] at hnext'
    refine ⟨_, _, hnext', ⟨rfl, rfl, h.literals, h.names, h.names'⟩, ?_⟩
    intro tables tables' _ _
    rw [herror]
    exact .error

/-- Lexers that are at the same place read the same up to the end. -/
theorem drain (h : Follows head l l') (active : l.state = .active) (active' : l'.state = .active) :
    List.Forall₂ (Moves head l.drain.lexer.tables l'.drain.lexer.tables) l.drain.items
        l'.drain.items ∧
      Follows head l.drain.lexer l'.drain.lexer := by
  induction l using Lexer.drain.induct generalizing l' with
  | case1 l error m hnext =>
    obtain ⟨item', m', hnext', hfollows, hmoves⟩ := h.next active active' hnext
    have hmoved := hmoves _ _ (Tables.Extends.refl _) (Tables.Extends.refl _)
    cases hmoved with
    | error =>
      rw [drain_of_error hnext, drain_of_error hnext']
      exact ⟨.cons .error .nil, hfollows⟩
  | case2 l token m hnext hend =>
    obtain ⟨item', m', hnext', hfollows, hmoves⟩ := h.next active active' hnext
    have hmoved := hmoves _ _ (Tables.Extends.refl _) (Tables.Extends.refl _)
    cases hmoved with
    | token htoken =>
      rw [drain_of_end hnext hend, drain_of_end hnext' (htoken.isEnd_eq.trans hend)]
      exact ⟨.cons (.token htoken) .nil, hfollows⟩
  | case3 l token m hnext hend ih =>
    obtain ⟨item', m', hnext', hfollows, hmoves⟩ := h.next active active' hnext
    have hmoved := hmoves _ _ m.extends_drain m'.extends_drain
    have hend : token.isEnd = false := by simpa using hend
    cases hmoved with
    | token htoken =>
      have hactive := ((pull_of_next hnext).active_of_token hend).2
      have hactive' := ((pull_of_next hnext').active_of_token (htoken.isEnd_eq.trans hend)).2
      obtain ⟨hothers, hlast⟩ := ih hfollows hactive hactive'
      rw [drain_of_token hnext hend, drain_of_token hnext' (htoken.isEnd_eq.trans hend)]
      exact ⟨.cons (.token htoken) hothers, hlast⟩

end Follows

/-! ## Behind a token -/

theorem Yields.after_of_le {l l' : Lexer} {tokens : List Token} {last : Item}
    (h : l.Yields tokens last l') {n : Nat} (hn : n ≤ tokens.length) :
    (l.after n).Yields (tokens.drop n) last l' := by
  induction n generalizing l tokens with
  | zero => exact h
  | succ n ih =>
    cases h with
    | last => cases hn
    | token hnext _ others =>
      rw [Lexer.after, hnext, List.drop_succ_cons]
      exact ih others (Nat.le_of_succ_le_succ hn)

theorem Yields.getElem?_of_drain {l l' : Lexer} {tokens : List Token} {last : Item}
    (h : l.Yields tokens last l') {n : Nat} {token : Token}
    (htoken : l.drain.tokens[n]? = some token) (hend : token.isEnd = false) :
    n < tokens.length ∧ tokens[n]? = some token := by
  rw [h.drain_eq] at htoken
  have hlt : n < tokens.length := by
    rw [← Nat.not_le]
    intro hle
    rw [List.getElem?_append_right hle] at htoken
    have hmem := List.mem_of_getElem? htoken
    have hlast := h.isLast
    cases last with
    | error error => cases hmem
    | ok other =>
      obtain rfl := List.mem_singleton.1 hmem
      rw [Item.isLast, hend] at hlast
      cases hlast
  exact ⟨hlt, (List.getElem?_append_left hlt).symm.trans htoken⟩

/-- A token that is not the end of the text is pulled at its place, and the items behind it are
those that are pulled later. -/
theorem drain_after {l : Lexer} {n : Nat} {token : Token} (htoken : l.drain.tokens[n]? = some token)
    (hend : token.isEnd = false) :
    l.stream n = .ok token ∧ (l.after (n + 1)).drain.items = l.drain.items.drop (n + 1) ∧
      (l.after (n + 1)).drain.lexer = l.drain.lexer := by
  obtain ⟨tokens, last, l', hyields⟩ := l.exists_yields
  obtain ⟨hlt, hget⟩ := hyields.getElem?_of_drain htoken hend
  have hrest := hyields.after_of_le hlt
  refine ⟨?_, ?_, ?_⟩
  · rw [hyields.stream_eq, Feed.get, hget]
    rfl
  · have hle : n + 1 ≤ (tokens.map .ok : List Item).length := by
      rw [List.length_map]
      exact hlt
    rw [hrest.items_drain, hyields.items_drain, List.map_drop, List.drop_append_of_le_length hle]
  · rw [hrest.drain_eq, hyields.drain_eq]

/-- Behind a token, the lexer has read the source up to where the token stops. -/
theorem reached_of_token {source : String} {n : Nat} {token : Token}
    (h : (ofString source).stream n = .ok token) (hend : token.isEnd = false) :
    ((ofString source).after (n + 1)).state = .active ∧
      ∃ read, read.length = token.span.stop ∧
        Reached source.toList read ((ofString source).after (n + 1)) := by
  have hnext := (ofString source).next_after n
  rw [h] at hnext
  have hpull := pull_of_next hnext
  obtain ⟨active, active'⟩ := hpull.active_of_token hend
  obtain ⟨blanks, taken, htakes⟩ := hpull.exists_takes active
  obtain ⟨read, hreached⟩ := exists_reached source n
  have hreached' := hreached.next htakes
  exact ⟨active', _, hreached'.offset.symm.trans htakes.stop_eq.symm, hreached'⟩

/-- A new lexer at the start of the rest is at the same place as the lexer that has come there. -/
theorem Reached.follows {source read : List Char} {l : Lexer} (h : Reached source read l)
    (hnames : l.tables.names.Inverse) :
    Follows ⟨read.length, read.count '\n', l.tables.literals⟩
      (ofString (String.ofList (source.drop read.length))) l where
  rest := by simp [← h.append, ofString]
  position := by
    rw [h.position]
    simp [Position.advance, Head.position, ofString, Nat.add_comm]
  literals := (LiteralTables.append_empty _).symm
  names := inverse_ofString _
  names' := hnames

/-- If a text is read on from the end of one of its tokens by a new lexer, the same items come, with
their spans counted from there, their literals numbered from there, and their names the same. The
new lexer ends on the same line, counted from there. -/
theorem restarts_drain (source : String) {n : Nat} {token : Token}
    (htoken : (ofString source).drain.tokens[n]? = some token) (hend : token.isEnd = false) :
    let whole := (ofString source).drain
    let read := source.toList.take token.span.stop
    let rest := (ofString (String.ofList (source.toList.drop token.span.stop))).drain
    let head : Head := ⟨token.span.stop, read.count '\n',
      ((ofString source).after (n + 1)).tables.literals⟩
    List.Forall₂ (Moves head rest.lexer.tables whole.lexer.tables) rest.items
        (whole.items.drop (n + 1)) ∧
      whole.lexer.line = head.lines + rest.lexer.line := by
  intro whole read rest head
  obtain ⟨hstream, hitems, hlexer⟩ := drain_after htoken hend
  obtain ⟨active, read', hlength, hreached⟩ := reached_of_token hstream hend
  obtain rfl : read = read' := by
    rw [← List.take_left' hlength, hreached.append]
  have hfollows := hreached.follows (inverse_after (inverse_ofString source) _)
  rw [hlength] at hfollows
  obtain ⟨hmoves, hlast⟩ := hfollows.drain rfl active
  rw [hitems, hlexer] at hmoves
  rw [hlexer] at hlast
  exact ⟨hmoves, congrArg Position.line hlast.position⟩

/-- Behind a quoted character on the second line come a string, which is the second one, and two
names, of which the second is the first one of the whole text. -/
theorem restarts_drain_names :
    let source := "x \"a\"\n'b' y \"c\" x & "
    let whole := (ofString source).drain
    let rest := (ofString (String.ofList (source.toList.drop 9))).drain
    let head : Head := ⟨9, (source.toList.take 9).count '\n',
      ((ofString source).after 3).tables.literals⟩
    whole.tokens[2]? = some ⟨.character, some 0, ⟨6, 9, 2⟩⟩ ∧
      head = ⟨9, 1, ⟨#[], #["a"], #['b']⟩⟩ ∧
      rest.tokens = [⟨.identifier, some 0, ⟨1, 2, 1⟩⟩, ⟨.stringLiteral, some 0, ⟨3, 6, 1⟩⟩,
        ⟨.identifier, some 1, ⟨7, 8, 1⟩⟩] ∧
      List.Forall₂ (Moves head rest.lexer.tables whole.lexer.tables) rest.items
        (whole.items.drop 3) ∧
      whole.lexer.line = head.lines + rest.lexer.line := by
  intro source whole rest head
  have htoken : whole.tokens[2]? = some ⟨.character, some 0, ⟨6, 9, 2⟩⟩ := by decide +kernel
  exact ⟨htoken, by decide +kernel, by decide +kernel, restarts_drain source htoken rfl⟩

end Lexer

end BlockLang
