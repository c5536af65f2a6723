-- SUMMARY: Writing more behind a text changes nothing that was decided before its end.
import BlockLang.Proofs.Lexeme.Lookahead
import BlockLang.Proofs.Lexer.Lexemes

namespace BlockLang.Lexer

/-!
# Extension

An item that stops before the end of the text has been decided by what is written there. If more is
written behind the text, the item is pulled all the same, at its place and with the same payload:
`keeps_drain`. Only what reaches up to the end of the text can become another item.
-/

/-- The same lexer with more text behind the rest. -/
def extend (l : Lexer) (more : List Char) : Lexer :=
  { l with rest := l.rest ++ more }

theorem ofString_append (source more : String) :
    ofString (source ++ more) = (ofString source).extend more.toList := by
  simp [ofString, extend]

/-- A pull that leaves some text does not depend on what is behind it. -/
theorem next_extend {l l' : Lexer} {item : Item} (h : l.next = (item, l')) (hrest : l'.rest ≠ [])
    (more : List Char) : (l.extend more).next = (item, l'.extend more) := by
  cases pull_of_next h with
  | halted hhalted => exact next_of_halted hhalted
  | finished hfinished => exact next_of_finished hfinished
  | finish => exact absurd rfl hrest
  | lexeme active hsplits hread =>
    have hsplits' := hsplits.extend (List.append_ne_nil_of_right_ne_nil _ hrest) more
    have hread' := Lexeme.read_extend_of_lexeme hread hrest more
    rw [next_of_splits (l := l.extend more) active hsplits']
    exact readToken_of_lexeme hread'
  | fault active hsplits hread herror =>
    have hsplits' := hsplits.extend (List.append_ne_nil_of_right_ne_nil _ hrest) more
    have hread' := Lexeme.read_extend_of_fault hread hrest more
    rw [next_of_splits (l := l.extend more) active hsplits']
    exact readToken_of_fault hread' herror

/-! ## The end of the text -/

/-- The number of characters up to the end of the text. -/
def sourceLength (l : Lexer) : Nat := l.position.offset + l.rest.length

theorem sourceLength_ofString (source : String) :
    (ofString source).sourceLength = source.length := by
  simp [sourceLength, ofString, String.length_toList]

section Takes

variable {l l' : Lexer} {blanks taken : List Char} {item : Item}

theorem Takes.offset_eq (h : l.Takes blanks taken item l') :
    l'.position.offset = l.position.offset + blanks.length + taken.length := by
  rw [h.position]
  rfl

theorem Takes.sourceLength_eq (h : l.Takes blanks taken item l') :
    l'.sourceLength = l.sourceLength := by
  rw [sourceLength, sourceLength, h.offset_eq, ← h.append]
  simp [Nat.add_assoc]

/-- A pull leaves some text exactly if the item stops before the end of it. -/
theorem Takes.rest_ne_nil_iff (h : l.Takes blanks taken item l') :
    l'.rest ≠ [] ↔ item.span.stop < l.sourceLength := by
  rw [h.stop_eq, ← h.sourceLength_eq, sourceLength, ← List.length_pos_iff]
  omega

theorem Takes.offset_le (h : l.Takes blanks taken item l') :
    l.position.offset ≤ l'.position.offset := by
  rw [h.offset_eq]
  omega

end Takes

/-- No item stops before the place that the lexer has reached. -/
theorem Yields.offset_le_stop {l l' : Lexer} {tokens : List Token} {last : Item}
    (h : l.Yields tokens last l') (active : l.state = .active) :
    ∀ item ∈ tokens.map .ok ++ [last], l.position.offset ≤ item.span.stop := by
  induction h with
  | last hnext _ =>
    obtain ⟨blanks, taken, htakes⟩ := (pull_of_next hnext).exists_takes active
    rw [List.map_nil, List.nil_append, List.forall_mem_singleton, htakes.stop_eq]
    exact htakes.offset_le
  | token hnext hend _ ih =>
    have hpull := pull_of_next hnext
    obtain ⟨blanks, taken, htakes⟩ := hpull.exists_takes active
    rw [List.map_cons, List.cons_append, List.forall_mem_cons, htakes.stop_eq]
    refine ⟨htakes.offset_le, ?_⟩
    intro item hitem
    exact Nat.le_trans htakes.offset_le (ih (hpull.active_of_token hend).2 item hitem)

/-- There is text left for an item that stops before the end of it. -/
theorem Yields.rest_ne_nil {l l' : Lexer} {tokens : List Token} {last : Item}
    (h : l.Yields tokens last l') (active : l.state = .active) {item : Item}
    (hitem : item ∈ tokens.map .ok ++ [last]) (hstop : item.span.stop < l.sourceLength) :
    l.rest ≠ [] := by
  have hle := h.offset_le_stop active item hitem
  rw [sourceLength] at hstop
  rw [← List.length_pos_iff]
  omega

/-! ## Whole texts -/

/-- What is read as `d` and what is read as `d'` have the item at the same place. If it is a token,
it stands for the same lexeme in the tables of both. -/
structure Keeps (d d' : Drained) (place : Nat) (item : Item) : Prop where
  place : d'.items[place]? = some item
  entry : ∀ token, item = .ok token →
    ∃ lexeme, Stands d.lexer.tables token lexeme ∧ Stands d'.lexer.tables token lexeme

theorem Keeps.cons {d d' : Drained} {place : Nat} {item : Item} (h : Keeps d d' place item)
    (token : Token) :
    Keeps { d with tokens := token :: d.tokens } { d' with tokens := token :: d'.tokens }
      (place + 1) item :=
  ⟨h.place, h.entry⟩

theorem Yields.keeps_extend {l l' : Lexer} {tokens : List Token} {last : Item}
    (h : l.Yields tokens last l') (active : l.state = .active) (hnames : l.tables.names.Inverse)
    (more : List Char) {place : Nat} {item : Item} (hitem : (tokens.map .ok ++ [last])[place]? = some item)
    (hstop : item.span.stop < l.sourceLength) :
    Keeps l.drain (l.extend more).drain place item := by
  induction h generalizing place with
  | @last l l' last hnext hlast =>
    obtain ⟨blanks, taken, htakes⟩ := (pull_of_next hnext).exists_takes active
    obtain ⟨rfl, rfl⟩ : place = 0 ∧ item = last := by
      cases place with
      | zero => exact ⟨rfl, (Option.some.inj hitem).symm⟩
      | succ place => simp at hitem
    have hrest := htakes.rest_ne_nil_iff.2 hstop
    cases item with
    | ok token => exact absurd (htakes.rest_eq_nil hlast) hrest
    | error error =>
      rw [drain_of_error (next_extend hnext hrest more)]
      exact ⟨rfl, nofun⟩
  | @token l l' l'' token tokens last hnext hend others ih =>
    have hpull := pull_of_next hnext
    have active' := (hpull.active_of_token hend).2
    have hnames' := inverse_of_next hnext hnames
    obtain ⟨blanks, taken, htakes⟩ := hpull.exists_takes active
    cases place with
    | zero =>
      obtain rfl := Option.some.inj hitem
      have hnext' := next_extend hnext (htakes.rest_ne_nil_iff.2 hstop) more
      rw [drain_of_token hnext hend, drain_of_token hnext' hend]
      refine ⟨rfl, ?_⟩
      rintro _ ⟨⟩
      obtain ⟨lexeme, hstands⟩ := exists_stands hnames hnext hend
      exact ⟨lexeme, hstands.mono l'.extends_drain, hstands.mono (l'.extend more).extends_drain⟩
    | succ place =>
      -- The item comes later, so this token leaves some text as well.
      rw [← htakes.sourceLength_eq] at hstop
      have hrest := others.rest_ne_nil active' (List.mem_of_getElem? hitem) hstop
      have hnext' := next_extend hnext hrest more
      rw [drain_of_token hnext hend, drain_of_token hnext' hend]
      exact (ih active' hnames' hitem hstop).cons token

/-- Every token and every error that stops before the end of the text is also there, and at its
place, if more is written behind the text. The entry of a token is the same in the tables of both. -/
theorem keeps_drain (source more : String) {place : Nat} {item : Item}
    (hitem : (ofString source).drain.items[place]? = some item)
    (hstop : item.span.stop < source.length) :
    Keeps (ofString source).drain (ofString (source ++ more)).drain place item := by
  obtain ⟨tokens, last, l', hyields⟩ := exists_yields (ofString source)
  rw [hyields.items_drain] at hitem
  rw [ofString_append]
  rw [← sourceLength_ofString] at hstop
  exact hyields.keeps_extend rfl (inverse_ofString source) more.toList hitem hstop

/-- A numeral before a lone mark, and the lone mark before a blank. What follows begins with the same
mark. -/
theorem keeps_drain_lone :
    let source := "x \"a\" 12& "
    let numeral : Token := ⟨.numeral, some 0, ⟨6, 8, 1⟩⟩
    let error : LexicalError := ⟨.undoubledOperator '&' (some ' '), ⟨8, 9, 1⟩⟩
    (ofString source).drain.items = [.ok ⟨.identifier, some 0, ⟨0, 1, 1⟩⟩,
        .ok ⟨.stringLiteral, some 0, ⟨2, 5, 1⟩⟩, .ok numeral, .error error] ∧
      Keeps (ofString source).drain (ofString (source ++ "& b")).drain 2 (.ok numeral) ∧
      Keeps (ofString source).drain (ofString (source ++ "& b")).drain 3 (.error error) := by
  intro source numeral error
  have hitems : (ofString source).drain.items = [.ok ⟨.identifier, some 0, ⟨0, 1, 1⟩⟩,
      .ok ⟨.stringLiteral, some 0, ⟨2, 5, 1⟩⟩, .ok numeral, .error error] := by
    decide +kernel
  have hnumeral := congrArg (·[2]?) hitems
  have herror := congrArg (·[3]?) hitems
  exact ⟨hitems, keeps_drain source "& b" hnumeral (by decide),
    keeps_drain source "& b" herror (by decide)⟩

end BlockLang.Lexer
