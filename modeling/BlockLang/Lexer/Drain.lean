-- SUMMARY: Pulling the tokens of a text in runs, or all at once.
import BlockLang.Lexer.Basic

namespace BlockLang.Lexer

/-!
## Runs of tokens

A run hands out the tokens that a lexer has left, up to the end of the text or the first error. A
run that is given up early leaves the rest to later pulls.
-/

/-! ## Runs -/

/-- A run over the tokens that a lexer has left, which ends after the first last item. -/
structure Run where
  lexer : Lexer
  ended : Bool := false
deriving DecidableEq, Repr

def run (l : Lexer) : Run := { lexer := l }

/-- The next item of a run, if it has not ended. -/
def Run.next (r : Run) : Option Item × Run :=
  if r.ended then (none, r)
  else
    let (item, lexer) := r.lexer.next
    (some item, ⟨lexer, item.isLast⟩)

/-- The answers to `n` requests for the next item of a run. -/
def Run.take (r : Run) : Nat → List (Option Item) × Run
  | 0 => ([], r)
  | n + 1 =>
    let (item, r) := r.next
    let (items, r) := r.take n
    (item :: items, r)

/-! ## All tokens -/

/-- What is left of a text: the tokens up to its end or up to the first error. -/
structure Drained where
  /-- The tokens read, the end of the text included. -/
  tokens : List Token
  failure : Option LexicalError
  /-- The lexer afterwards. -/
  lexer : Lexer
deriving DecidableEq, Repr

/-- Pull tokens until the end of the text or an error. -/
def drain (l : Lexer) : Drained :=
  match _h : l.next with
  | (.error error, l') => ⟨[], some error, l'⟩
  | (.ok token, l') =>
    if _hend : token.isEnd then ⟨[token], none, l'⟩
    else
      let d := l'.drain
      { d with tokens := token :: d.tokens }
termination_by l.rest.length
decreasing_by exact length_rest_next_lt _h (by simpa using _hend)

theorem drain_of_error {l l' : Lexer} {error : LexicalError}
    (h : l.next = (.error error, l')) : l.drain = ⟨[], some error, l'⟩ := by
  rw [drain]
  split
  · next error' l'' h' =>
    cases h.symm.trans h'
    rfl
  · next token l'' h' => cases h.symm.trans h'

theorem drain_of_end {l l' : Lexer} {token : Token} (h : l.next = (.ok token, l'))
    (hend : token.isEnd) : l.drain = ⟨[token], none, l'⟩ := by
  rw [drain]
  split
  · next error l'' h' => cases h.symm.trans h'
  · next token' l'' h' =>
    cases h.symm.trans h'
    simp [hend]

theorem drain_of_token {l l' : Lexer} {token : Token} (h : l.next = (.ok token, l'))
    (hend : token.isEnd = false) :
    l.drain = { l'.drain with tokens := token :: l'.drain.tokens } := by
  rw [drain]
  split
  · next error l'' h' => cases h.symm.trans h'
  · next token' l'' h' =>
    cases h.symm.trans h'
    simp [hend]

/-- All tokens that are left, or the error that keeps them from being read. -/
def tokenize (l : Lexer) : Except LexicalError (List Token) × Lexer :=
  let d := l.drain
  match d.failure with
  | none => (.ok d.tokens, d.lexer)
  | some error => (.error error, d.lexer)

end BlockLang.Lexer
