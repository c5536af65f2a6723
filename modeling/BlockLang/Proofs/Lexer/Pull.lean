-- SUMMARY: What one pull of a lexer does, case by case, and what it takes off the text.
import BlockLang.Lexer.Drain
import BlockLang.Proofs.Lexeme.Fault
import BlockLang.Proofs.Lexer.LongestMatch

namespace BlockLang

def Span.slice (source : List Char) (s : Span) : List Char :=
  source.extract s.start s.stop

namespace Lexer

/-!
# Pulls

A pull reports the error that stopped the lexer, gives the end of the text again, finds it, reads a
lexeme, or meets a fault: `Pull` lists these cases once. Whichever it is, an active lexer skips some
blanks, takes the characters of the item off the text, and moves its place by just these (`Takes`).
Pulling on, every lexer yields some tokens and then a last item (`Yields`), and this is what draining
collects.
-/

/-- The part of the text that an item stands for. -/
def Item.span : Item → Span
  | .ok token => token.span
  | .error error => error.span

def Item.isEnd : Item → Bool
  | .ok token => token.isEnd
  | .error _ => false

def Item.failure? : Item → Option LexicalError
  | .ok _ => none
  | .error error => some error

/-! ## The cases of a pull -/

/-- What a pull yields, and the lexer after it. -/
inductive Pull (l : Lexer) : Item → Lexer → Prop
  /-- The error that stopped the lexer is reported again. -/
  | halted {error : LexicalError} (h : l.state = .halted error) : Pull l (.error error) l
  /-- The end of the text is given again. -/
  | finished (h : l.state = .finished) : Pull l (.ok (endAt l.position)) l
  /-- Only blanks are left. -/
  | finish (active : l.state = .active) (hblanks : ∀ c ∈ l.rest, Text.isBlank c) :
      Pull l (.ok (endAt (l.position.advance l.rest)))
        { rest := [], position := l.position.advance l.rest, tables := l.tables, state := .finished }
  /-- The longest lexeme after the blanks is read. -/
  | lexeme (active : l.state = .active) {lexeme : Lexeme} {blanks rest : List Char}
      (hsplits : Text.Splits Text.isBlank l.rest blanks (lexeme.spelling ++ rest))
      (hread : Lexeme.read (lexeme.spelling ++ rest) = .lexeme lexeme rest) :
      Pull l (.ok (tokenAt l.tables (l.position.advance blanks) lexeme))
        (afterLexeme l.tables (l.position.advance blanks) lexeme rest)
  /-- After the blanks there is a fault, which stops the lexer. -/
  | fault (active : l.state = .active) {fault : LexicalFault} {blanks consumed rest : List Char}
      {error : LexicalError} (hsplits : Text.Splits Text.isBlank l.rest blanks (consumed ++ rest))
      (hread : Lexeme.read (consumed ++ rest) = .fault fault consumed rest)
      (herror : error = { fault, span :=
        (l.position.advance blanks).to ((l.position.advance blanks).advance consumed) }) :
      Pull l (.error error)
        { rest, position := (l.position.advance blanks).advance consumed, tables := l.tables,
          state := .halted error }

theorem next_of_halted {l : Lexer} {error : LexicalError} (h : l.state = .halted error) :
    l.next = (.error error, l) := by
  simp [next, h]

theorem next_of_finished {l : Lexer} (h : l.state = .finished) :
    l.next = (.ok (endAt l.position), l) := by
  simp [next, h]

theorem readToken_of_fault {tables : Tables} {start : Position} {text consumed rest : List Char}
    {fault : LexicalFault} {error : LexicalError}
    (h : Lexeme.read text = .fault fault consumed rest)
    (herror : error = { fault, span := start.to (start.advance consumed) }) :
    readToken tables start text =
      (.error error, { rest, position := start.advance consumed, tables, state := .halted error }) := by
  simp only [readToken, h, herror]

/-- Every pull is one of the five cases. -/
theorem pull_next (l : Lexer) : l.Pull l.next.1 l.next.2 := by
  cases hstate : l.state with
  | halted error =>
    rw [next_of_halted hstate]
    exact .halted hstate
  | finished =>
    rw [next_of_finished hstate]
    exact .finished hstate
  | active =>
    have hsplits := Text.splits_while Text.isBlank l.rest
    generalize l.rest.takeWhile Text.isBlank = blanks at hsplits
    generalize l.rest.dropWhile Text.isBlank = text at hsplits
    rw [next_of_splits hstate hsplits]
    cases hread : Lexeme.read text with
    | nothing =>
      cases text with
      | cons c text => exact absurd hread (Lexeme.read_ne_nothing c text)
      | nil =>
        obtain rfl : blanks = l.rest := by simpa using hsplits.append
        simp only [readToken, hread]
        exact .finish hstate hsplits.inside
    | lexeme lexeme rest =>
      rw [readToken_of_lexeme hread]
      obtain rfl := Lexeme.spelling_append_of_read hread
      exact .lexeme hstate hsplits hread
    | fault fault consumed rest =>
      rw [readToken_of_fault hread rfl]
      obtain rfl := (Lexeme.stops_of_read hread).append
      exact .fault hstate hsplits hread rfl

theorem pull_of_next {l l' : Lexer} {item : Item} (h : l.next = (item, l')) : l.Pull item l' := by
  have hpull := l.pull_next
  rwa [h] at hpull

/-! ## What a pull takes -/

/-- A pull of an active lexer skips `blanks` and takes `taken`. It takes nothing only at the end of
the text. -/
structure Takes (l : Lexer) (blanks taken : List Char) (item : Item) (l' : Lexer) : Prop where
  append : blanks ++ (taken ++ l'.rest) = l.rest
  blank : ∀ c ∈ blanks, Text.isBlank c
  starts : ∀ c ∈ taken.head?, Text.isBlank c = false
  position : l'.position = (l.position.advance blanks).advance taken
  extent : item.span = (l.position.advance blanks).to l'.position
  taken_eq_nil_iff : taken = [] ↔ item.isEnd
  rest_eq_nil : item.isEnd → l'.rest = []

/-- A pull moves the lexer to where the item stops. -/
theorem Takes.stop_eq {l l' : Lexer} {blanks taken : List Char} {item : Item}
    (h : l.Takes blanks taken item l') : item.span.stop = l'.position.offset := by
  rw [h.extent]
  rfl

theorem takes_finish {l : Lexer} (hblanks : ∀ c ∈ l.rest, Text.isBlank c) :
    l.Takes l.rest [] (.ok (endAt (l.position.advance l.rest)))
      { rest := [], position := l.position.advance l.rest, tables := l.tables, state := .finished }
    where
  append := List.append_nil _
  blank := hblanks
  starts := by simp
  position := rfl
  extent := rfl
  taken_eq_nil_iff := by simp [Item.isEnd, Token.isEnd, endAt]
  rest_eq_nil := fun _ => rfl

theorem takes_lexeme {l : Lexer} {lexeme : Lexeme} {blanks rest : List Char}
    (hsplits : Text.Splits Text.isBlank l.rest blanks (lexeme.spelling ++ rest))
    (hread : Lexeme.read (lexeme.spelling ++ rest) = .lexeme lexeme rest) :
    l.Takes blanks lexeme.spelling (.ok (tokenAt l.tables (l.position.advance blanks) lexeme))
      (afterLexeme l.tables (l.position.advance blanks) lexeme rest) where
  append := hsplits.append
  blank := hsplits.inside
  starts := hsplits.stops_of_append
  position := rfl
  extent := rfl
  taken_eq_nil_iff := by
    simp [Item.isEnd, isEnd_tokenAt, Lexeme.spelling_ne_nil_of_read hread]
  rest_eq_nil := by simp [Item.isEnd, isEnd_tokenAt]

theorem takes_fault {l : Lexer} {fault : LexicalFault} {blanks consumed rest : List Char}
    {error : LexicalError} (hsplits : Text.Splits Text.isBlank l.rest blanks (consumed ++ rest))
    (hread : Lexeme.read (consumed ++ rest) = .fault fault consumed rest)
    (herror : error = { fault, span :=
      (l.position.advance blanks).to ((l.position.advance blanks).advance consumed) }) :
    l.Takes blanks consumed (.error error)
      { rest, position := (l.position.advance blanks).advance consumed, tables := l.tables,
        state := .halted error } where
  append := hsplits.append
  blank := hsplits.inside
  starts := hsplits.stops_of_append
  position := rfl
  extent := by rw [herror]; rfl
  taken_eq_nil_iff := by simp [Item.isEnd, (Lexeme.stops_of_read hread).consumed_ne_nil]
  rest_eq_nil := by simp [Item.isEnd]

theorem Pull.exists_takes {l l' : Lexer} {item : Item} (h : l.Pull item l')
    (active : l.state = .active) : ∃ blanks taken, l.Takes blanks taken item l' := by
  cases h with
  | halted hhalted => cases active.symm.trans hhalted
  | finished hfinished => cases active.symm.trans hfinished
  | finish _ hblanks => exact ⟨_, _, takes_finish hblanks⟩
  | lexeme _ hsplits hread => exact ⟨_, _, takes_lexeme hsplits hread⟩
  | fault _ hsplits hread herror => exact ⟨_, _, takes_fault hsplits hread herror⟩

/-- Before and after a token that is not the end of the text, a lexer is active. -/
theorem Pull.active_of_token {l l' : Lexer} {token : Token} (h : l.Pull (.ok token) l')
    (hend : token.isEnd = false) : l.state = .active ∧ l'.state = .active := by
  cases h with
  | finished | finish => cases hend
  | lexeme active _ _ => exact ⟨active, rfl⟩

/-! ## The place in the source -/

/-- The lexer has read `read` off the front of `source`. -/
structure Reached (source read : List Char) (l : Lexer) : Prop where
  append : read ++ l.rest = source
  position : l.position = Position.advance {} read

theorem reached_ofString (source : String) : Reached source.toList [] (ofString source) :=
  ⟨rfl, rfl⟩

section Reached

variable {source read blanks taken : List Char} {l l' : Lexer} {item : Item}

theorem Reached.next (h : Reached source read l) (htakes : l.Takes blanks taken item l') :
    Reached source (read ++ (blanks ++ taken)) l' where
  append := by rw [← h.append, ← htakes.append]; simp
  position := by
    rw [htakes.position, h.position, ← Position.advance_append, ← Position.advance_append]

theorem Reached.offset (h : Reached source read l) : l.position.offset = read.length := by
  simp [h.position, Position.advance]

/-- Where the item starts and stops, counted from the start of the source. -/
theorem Reached.span_eq (h : Reached source read l) (htakes : l.Takes blanks taken item l') :
    item.span.start = read.length + blanks.length ∧
      item.span.stop = read.length + blanks.length + taken.length := by
  simp [htakes.extent, htakes.position, Position.to, Position.advance, h.offset]

/-- The item's slice of the source is what the pull takes. -/
theorem Reached.slice_eq (h : Reached source read l) (htakes : l.Takes blanks taken item l') :
    item.span.slice source = taken := by
  obtain ⟨hstart, hstop⟩ := h.span_eq htakes
  rw [Span.slice, hstart, hstop, ← h.append, ← htakes.append, ← List.append_assoc,
    ← List.length_append]
  simp

/-- The source between the place of the lexer and the item is what the pull skips. -/
theorem Reached.gap_eq (h : Reached source read l) (htakes : l.Takes blanks taken item l') :
    source.extract read.length item.span.start = blanks := by
  rw [(h.span_eq htakes).1, ← h.append, ← htakes.append]
  simp

end Reached

/-! ## Pulling to the end -/

/-- The lexer yields `tokens`, and then `last`, which leaves `l'`. -/
inductive Yields : Lexer → List Token → Item → Lexer → Prop
  | last {l l' : Lexer} {item : Item} (hnext : l.next = (item, l')) (hlast : item.isLast) :
      Yields l [] item l'
  | token {l l' l'' : Lexer} {token : Token} {tokens : List Token} {last : Item}
      (hnext : l.next = (.ok token, l')) (hend : token.isEnd = false)
      (others : Yields l' tokens last l'') : Yields l (token :: tokens) last l''

/-- Every lexer comes to a last item. -/
theorem exists_yields (l : Lexer) : ∃ tokens last l', l.Yields tokens last l' := by
  induction l using drain.induct with
  | case1 l error l' hnext => exact ⟨[], _, l', .last hnext rfl⟩
  | case2 l token l' hnext hend => exact ⟨[], _, l', .last hnext hend⟩
  | case3 l token l' hnext hend ih =>
    obtain ⟨tokens, last, l'', hyields⟩ := ih
    exact ⟨token :: tokens, last, l'', .token hnext (by simpa using hend) hyields⟩

namespace Yields

variable {l l' : Lexer} {tokens : List Token} {last : Item}

theorem isLast (h : l.Yields tokens last l') : last.isLast := by
  induction h with
  | last _ hlast => exact hlast
  | token _ _ _ ih => exact ih

theorem isEnd_of_mem (h : l.Yields tokens last l') : ∀ token ∈ tokens, token.isEnd = false := by
  induction h with
  | last => simp
  | token _ hend _ ih => exact List.forall_mem_cons.2 ⟨hend, ih⟩

/-- Draining collects what is yielded. The last item is a token if it is no error. -/
theorem drain_eq (h : l.Yields tokens last l') :
    l.drain = ⟨tokens ++ last.toOption.toList, last.failure?, l'⟩ := by
  induction h with
  | @last l l' item hnext hlast =>
    cases item with
    | ok token => exact drain_of_end hnext hlast
    | error error => exact drain_of_error hnext
  | token hnext hend _ ih => rw [drain_of_token hnext hend, ih, List.cons_append]

end Yields

/-- All items of a drained lexer, the one that ends them included. -/
def Drained.items (d : Drained) : List Item :=
  d.tokens.map .ok ++ d.failure.toList.map .error

theorem Yields.items_drain {l l' : Lexer} {tokens : List Token} {last : Item}
    (h : l.Yields tokens last l') : l.drain.items = tokens.map .ok ++ [last] := by
  rw [Drained.items, h.drain_eq]
  cases last with
  | ok token => simp [Item.failure?, Except.toOption]
  | error error => simp [Item.failure?, Except.toOption]

end Lexer

end BlockLang
