-- SUMMARY: All ways of asking a lexer for tokens hand out one stream of items.
import BlockLang.Proofs.Lexer.Pull
import BlockLang.Proofs.Tables

namespace BlockLang.Lexer

/-!
# One stream

Pulled for ever, a lexer yields some tokens and then one last item again and again: a `Feed`. Single
pulls, runs that are given up early, and reading all that is left take their items from one feed,
each where the one before it stopped: `exists_answersFrom`.
-/

/-! ## Pulling for ever -/

def after (l : Lexer) : Nat → Lexer
  | 0 => l
  | n + 1 => l.next.2.after n

/-- The item that is pulled after `n` others. -/
def stream (l : Lexer) (n : Nat) : Item :=
  (l.after n).next.1

theorem after_add (l : Lexer) (m n : Nat) : l.after (m + n) = (l.after m).after n := by
  induction m generalizing l with
  | zero => rw [Nat.zero_add, after]
  | succ m ih =>
    rw [Nat.succ_add]
    exact ih l.next.2

theorem after_succ (l : Lexer) (n : Nat) : l.after (n + 1) = (l.after n).next.2 :=
  after_add l n 1

theorem next_after (l : Lexer) (n : Nat) : (l.after n).next = (l.stream n, l.after (n + 1)) := by
  rw [after_succ, stream]

/-- However often it is pulled, a lexer is somewhere in its source. -/
theorem exists_reached (source : String) (n : Nat) :
    ∃ read, Reached source.toList read ((ofString source).after n) := by
  induction n with
  | zero => exact ⟨[], reached_ofString source⟩
  | succ n ih =>
    obtain ⟨read, hreached⟩ := ih
    rw [after_succ]
    cases hstate : ((ofString source).after n).state with
    | halted error =>
      rw [next_of_halted hstate]
      exact ⟨read, hreached⟩
    | finished =>
      rw [next_of_finished hstate]
      exact ⟨read, hreached⟩
    | active =>
      obtain ⟨blanks, taken, htakes⟩ := (pull_next _).exists_takes hstate
      exact ⟨_, hreached.next htakes⟩

theorem tables_of_error {l l' : Lexer} {error : LexicalError} (h : l.next = (.error error, l')) :
    l'.tables = l.tables := by
  cases pull_of_next h with
  | halted => rfl
  | fault => rfl

theorem extends_after (l : Lexer) (n : Nat) : (l.after n).tables.Extends l.tables := by
  induction n generalizing l with
  | zero => exact Tables.Extends.refl _
  | succ n ih => exact (ih l.next.2).trans l.extends_next

/-- Names and numbers belong together one to one, however often a lexer is pulled. -/
theorem inverse_after {l : Lexer} (h : l.tables.names.Inverse) (n : Nat) :
    (l.after n).tables.names.Inverse := by
  induction n generalizing l with
  | zero => exact h
  | succ n ih => exact ih (inverse_next h)

/-- A last item is found again, and the lexer stays as it is: it is halted or finished. -/
theorem next_of_last {l l' : Lexer} {item : Item} (h : l.next = (item, l')) (hlast : item.isLast) :
    l'.next = (item, l') := by
  cases pull_of_next h with
  | halted hhalted => exact next_of_halted hhalted
  | finished hfinished => exact next_of_finished hfinished
  | finish => exact next_of_finished rfl
  | lexeme => simp [Item.isLast, isEnd_tokenAt] at hlast
  | fault => exact next_of_halted rfl

/-! ## Feeds -/

/-- Some tokens, and then one last item for ever. -/
structure Feed where
  tokens : List Token
  last : Item

namespace Feed

/-- The end of the text is no token among others: it, or an error, comes last. -/
structure WellFormed (f : Feed) : Prop where
  tokens : ∀ token ∈ f.tokens, token.isEnd = false
  last : f.last.isLast

def get (f : Feed) (place : Nat) : Item :=
  (f.tokens[place]?.map .ok).getD f.last

/-- The items from a place on, up to the first last one. -/
def remaining (f : Feed) (place : Nat) : List Item :=
  (f.tokens.drop place).map .ok ++ [f.last]

end Feed

theorem stream_of_last {l l' : Lexer} {item : Item} (h : l.next = (item, l'))
    (hlast : item.isLast) (n : Nat) : l.stream n = item := by
  induction n generalizing l with
  | zero => rw [stream, after, h]
  | succ n ih =>
    have hstep : l.stream (n + 1) = l'.stream n := by rw [stream, after, h, stream]
    rw [hstep]
    exact ih (next_of_last h hlast)

namespace Yields

variable {l l' : Lexer} {tokens : List Token} {last : Item}

theorem wellFormed (h : l.Yields tokens last l') : Feed.WellFormed ⟨tokens, last⟩ :=
  ⟨h.isEnd_of_mem, h.isLast⟩

/-- The stream of a lexer is the feed of what it yields. -/
theorem stream_eq (h : l.Yields tokens last l') (n : Nat) :
    l.stream n = Feed.get ⟨tokens, last⟩ n := by
  induction h generalizing n with
  | last hnext hlast => exact stream_of_last hnext hlast n
  | @token l l' _ _ _ _ hnext _ _ ih =>
    cases n with
    | zero => simp [stream, after, hnext, Feed.get]
    | succ n =>
      have hstep : l.stream (n + 1) = l'.stream n := by rw [stream, after, hnext, stream]
      rw [hstep, ih n]
      rfl

/-- After some pulls the lexer yields what is left of its feed. -/
theorem after (h : l.Yields tokens last l') (n : Nat) :
    ∃ l'', (l.after n).Yields (tokens.drop n) last l'' := by
  induction n generalizing l tokens l' with
  | zero => exact ⟨l', h⟩
  | succ n ih =>
    rw [Lexer.after]
    cases h with
    | last hnext hlast =>
      rw [hnext, List.drop_nil, ← List.drop_nil (i := n)]
      exact ih (.last (next_of_last hnext hlast) hlast)
    | token hnext _ others =>
      rw [hnext, List.drop_succ_cons]
      exact ih others

theorem lexer_eq_after (h : l.Yields tokens last l') : l' = l.after (tokens.length + 1) := by
  induction h with
  | last hnext _ => rw [List.length_nil, Lexer.after, hnext, Lexer.after]
  | token hnext _ _ ih => rw [ih, List.length_cons, Lexer.after.eq_2 _ (_ + 1), hnext]

end Yields

/-! ## Requests -/

inductive Call where
  | next
  /-- Start a run, ask it for items so many times, and give it up. -/
  | run (requests : Nat)
  | tokenize
  | line
  | tables
deriving DecidableEq, Repr

inductive Answer where
  | item (item : Item)
  | items (items : List (Option Item))
  | tokens (result : Except LexicalError (List Token))
  | line (line : Nat)
  | tables (tables : Tables)

def answer (l : Lexer) : Call → Answer × Lexer
  | .next => l.next.map .item id
  | .run requests => (l.run.take requests).map .items Run.lexer
  | .tokenize => l.tokenize.map .tokens id
  | .line => (.line l.line, l)
  | .tables => (.tables l.tables, l)

def answerAll (l : Lexer) : List Call → List Answer × Lexer
  | [] => ([], l)
  | call :: calls =>
    let (answer, l) := l.answer call
    let (answers, l) := l.answerAll calls
    (answer :: answers, l)

namespace Feed

/-- What a request is answered with if the items of the feed before `place` have been handed out,
and the place up to which they have been handed out then. The line and the tables are those of `l`
after as many pulls. -/
def serve (f : Feed) (l : Lexer) (place : Nat) : Call → Answer × Nat
  | .next => (.item (f.get place), place + 1)
  | .run requests =>
    let items := (f.remaining place).take requests
    (.items (items.map some ++ List.replicate (requests - items.length) none),
      place + items.length)
  | .tokenize =>
    (.tokens (f.last.map fun token => f.tokens.drop place ++ [token]),
      place + (f.remaining place).length)
  | .line => (.line (l.after place).line, place)
  | .tables => (.tables (l.after place).tables, place)

def serveAll (f : Feed) (l : Lexer) (place : Nat) : List Call → List Answer × Nat
  | [] => ([], place)
  | call :: calls =>
    let (answer, place) := f.serve l place call
    let (answers, place) := f.serveAll l place calls
    (answer :: answers, place)

end Feed

/-! ## Runs -/

theorem take_of_ended (l : Lexer) (requests : Nat) :
    (Run.mk l true).take requests = (List.replicate requests none, ⟨l, true⟩) := by
  induction requests with
  | zero => rfl
  | succ requests ih => simp [Run.take, Run.next, ih, List.replicate_succ]

theorem take_of_last {l l' : Lexer} {item : Item} (h : l.next = (item, l')) (hlast : item.isLast)
    (requests : Nat) :
    l.run.take (requests + 1) = (some item :: List.replicate requests none, ⟨l', true⟩) := by
  simp [run, Run.take, Run.next, h, hlast, take_of_ended]

theorem take_of_token {l l' : Lexer} {token : Token} (h : l.next = (.ok token, l'))
    (hend : token.isEnd = false) (requests : Nat) :
    l.run.take (requests + 1) =
      (some (.ok token) :: (l'.run.take requests).1, (l'.run.take requests).2) := by
  simp [run, Run.take, Run.next, h, Item.isLast, hend]

/-- A run hands out the items that are left, up to the last one, and then none. -/
theorem Yields.take_eq {l l' : Lexer} {tokens : List Token} {last : Item}
    (h : l.Yields tokens last l') (requests : Nat) :
    let items : List Item := List.take requests (tokens.map .ok ++ [last])
    (l.run.take requests).1 =
        items.map some ++ List.replicate (requests - items.length) none ∧
      (l.run.take requests).2.lexer = l.after items.length := by
  induction requests generalizing l tokens with
  | zero => exact ⟨rfl, rfl⟩
  | succ requests ih =>
    cases h with
    | last hnext hlast =>
      rw [take_of_last hnext hlast]
      simp [Lexer.after, hnext]
    | token hnext hend others =>
      obtain ⟨hitems, hlexer⟩ := ih others
      rw [take_of_token hnext hend, hitems, hlexer]
      simp [Lexer.after, hnext]

theorem Yields.tokenize_eq {l l' : Lexer} {tokens : List Token} {last : Item}
    (h : l.Yields tokens last l') : l.tokenize = (last.map fun token => tokens ++ [token], l') := by
  rw [tokenize, h.drain_eq]
  cases last with
  | ok token => rfl
  | error error => simp [Item.failure?, Except.map]

/-! ## Main statement -/

/-- Each request takes its items where the ones before it stopped. -/
theorem Yields.answer_eq_serve {l l' : Lexer} {tokens : List Token} {last : Item}
    (h : l.Yields tokens last l') (place : Nat) (call : Call) :
    (l.after place).answer call =
      ((Feed.serve ⟨tokens, last⟩ l place call).1,
        l.after (Feed.serve ⟨tokens, last⟩ l place call).2) := by
  obtain ⟨l'', hrest⟩ := h.after place
  cases call with
  | next =>
    rw [answer, next_after, h.stream_eq]
    rfl
  | run requests =>
    obtain ⟨hitems, hlexer⟩ := hrest.take_eq requests
    rw [answer, Prod.map, hitems, hlexer, ← after_add]
    rfl
  | tokenize =>
    rw [answer, hrest.tokenize_eq, hrest.lexer_eq_after, ← after_add]
    simp [Feed.serve, Feed.remaining]
  | line => rfl
  | tables => rfl

theorem Yields.answerAll_eq {l l' : Lexer} {tokens : List Token} {last : Item}
    (h : l.Yields tokens last l') (place : Nat) (calls : List Call) :
    (l.after place).answerAll calls =
      ((Feed.serveAll ⟨tokens, last⟩ l place calls).1,
        l.after (Feed.serveAll ⟨tokens, last⟩ l place calls).2) := by
  induction calls generalizing place with
  | nil => rfl
  | cons call calls ih => simp only [answerAll, h.answer_eq_serve, ih, Feed.serveAll]

/-- A run that is started when all tokens have been handed out hands out just the last item. -/
theorem Yields.take_after_eq {l l' : Lexer} {tokens : List Token} {last : Item}
    (h : l.Yields tokens last l') {n : Nat} (hn : tokens.length ≤ n) (requests : Nat) :
    ((l.after n).run.take (requests + 1)).1 = some last :: List.replicate requests none := by
  obtain ⟨l'', hrest⟩ := h.after n
  rw [List.drop_eq_nil_of_le hn] at hrest
  cases hrest with
  | last hnext hlast => rw [take_of_last hnext hlast]

/-- All requests to a lexer are answered from one feed. -/
structure AnswersFrom (l : Lexer) (feed : Feed) : Prop where
  wellFormed : feed.WellFormed
  /-- The lexer pulls the items of the feed. -/
  stream_eq : ∀ n, l.stream n = feed.get n
  /-- Requests in any order read the feed on from where the ones before them stopped. -/
  answerAll_eq : ∀ calls,
    l.answerAll calls = ((feed.serveAll l 0 calls).1, l.after (feed.serveAll l 0 calls).2)
  /-- A run that is started after the last item hands out just that item. -/
  take_after_eq : ∀ n requests, feed.tokens.length ≤ n →
    ((l.after n).run.take (requests + 1)).1 = some feed.last :: List.replicate requests none

/-- A lexer at the start of a text answers all requests from one feed. -/
theorem exists_answersFrom (source : String) :
    ∃ feed, (ofString source).AnswersFrom feed := by
  obtain ⟨tokens, last, l', hyields⟩ := (ofString source).exists_yields
  refine ⟨⟨tokens, last⟩, ?_⟩
  constructor
  case wellFormed => exact hyields.wellFormed
  case stream_eq => exact hyields.stream_eq
  case answerAll_eq => exact hyields.answerAll_eq 0
  case take_after_eq => exact fun _ requests hn => hyields.take_after_eq hn requests

end BlockLang.Lexer
