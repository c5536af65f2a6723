-- SUMMARY: Line numbers: the line that an item starts on, and the line that a lexer has come to.
import BlockLang.Proofs.Lexer.Stream

namespace BlockLang.Lexer

/-!
# Lines

A line number counts the line feeds before a place, and nothing else. This is so for the place where
an item starts, be it a token, the end of the text or an error, and for the place that the lexer has
come to when the item has been pulled: `onLine_stream`.
-/

/-- The line that a source is on after its first characters. -/
def lineAt (source : List Char) (offset : Nat) : Nat :=
  1 + (source.take offset).count '\n'

/-- The place behind the first characters of a source is on the line that the source is on there. -/
theorem line_advance {source read rest : List Char} (h : read ++ rest = source) :
    (Position.advance {} read).line = lineAt source (Position.advance {} read).offset := by
  simp [lineAt, ← h, Position.advance]

/-- An item and the lexer after it number their lines as `source` does. -/
structure OnLine (source : List Char) (item : Item) (l : Lexer) : Prop where
  start : item.span.line = lineAt source item.span.start
  stop : l.line = lineAt source item.span.stop

section Reached

variable {source read blanks taken : List Char} {l l' : Lexer} {item : Item}

theorem Reached.line_eq (h : Reached source read l) : l.line = lineAt source l.position.offset := by
  rw [line, h.position]
  exact line_advance h.append

/-- The blanks before an item may go on to other lines. -/
theorem Reached.line_skip (h : Reached source read l) (htakes : l.Takes blanks taken item l') :
    (l.position.advance blanks).line = lineAt source (l.position.advance blanks).offset := by
  have hsource : (read ++ blanks) ++ (taken ++ l'.rest) = source := by
    rw [List.append_assoc, htakes.append, h.append]
  rw [h.position, ← Position.advance_append]
  exact line_advance hsource

/-- One pull from a place in the source. -/
theorem Reached.onLine (h : Reached source read l) (htakes : l.Takes blanks taken item l') :
    OnLine source item l' where
  start := by rw [htakes.extent]; exact h.line_skip htakes
  stop := by rw [htakes.stop_eq]; exact (h.next htakes).line_eq

end Reached

theorem active_after_of_not_isLast {l : Lexer} {n : Nat} (h : (l.stream n).isLast = false) :
    (l.after (n + 1)).state = .active := by
  have hpull := pull_of_next (l.next_after n)
  cases hitem : l.stream n with
  | error error => simp [hitem, Item.isLast] at h
  | ok token =>
    rw [hitem] at hpull h
    exact (hpull.active_of_token h).2

/-- However often a lexer is pulled, also beyond the end of the text or an error, the item that comes
starts on the line that its source is on there, and the lexer is then on the line where the item
stops. -/
theorem onLine_stream (source : String) (n : Nat) :
    OnLine source.toList ((ofString source).stream n) ((ofString source).after (n + 1)) := by
  have hpulls : ∀ n, ((ofString source).after n).state = .active →
      OnLine source.toList ((ofString source).stream n) ((ofString source).after (n + 1)) := by
    intro n active
    obtain ⟨read, hreached⟩ := exists_reached source n
    obtain ⟨blanks, taken, htakes⟩ :=
      (pull_of_next ((ofString source).next_after n)).exists_takes active
    exact hreached.onLine htakes
  induction n with
  | zero => exact hpulls 0 rfl
  | succ n ih =>
    cases hlast : ((ofString source).stream n).isLast with
    | false => exact hpulls (n + 1) (active_after_of_not_isLast hlast)
    | true =>
      -- The last item comes again, and the lexer stays as it is.
      have hagain := next_of_last ((ofString source).next_after n) hlast
      obtain ⟨hitem, hlexer⟩ := Prod.mk.inj (((ofString source).next_after (n + 1)).symm.trans hagain)
      rwa [hitem, hlexer]

/-- Line feeds inside a string and inside a quoted character count. -/
example : let l := ofString "\"a\nb\" x\n'\n' y"
    (List.range 5).map (fun n => (l.stream n).span.line) = [1, 2, 3, 4, 4] ∧ (l.after 7).line = 4 := by
  decide +kernel

end BlockLang.Lexer
