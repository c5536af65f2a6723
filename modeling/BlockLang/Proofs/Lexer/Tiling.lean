-- SUMMARY: The items of a text and the blanks between them make up the whole text.
import BlockLang.Proofs.Lexer.Pull
import Mathlib.Data.List.Chain

namespace BlockLang.Lexer

/-!
# Tilings

Each item lies right behind the blanks that follow the item before it, and the last one is the end
of the text or an error. So a text that is read to its end is cut into blanks and tokens without a
gap and without an overlap: `tiles_drain`.
-/

/-! ## One item -/

/-- An item of `source` that is found after the first `start` characters. -/
structure Placed (source : List Char) (start : Nat) (item : Item) : Prop where
  start_le : start ≤ item.span.start
  gap : ∀ c ∈ source.extract start item.span.start, Text.isBlank c
  starts : ∀ c ∈ (item.span.slice source).head?, Text.isBlank c = false
  extent : item.isEnd = false →
    item.span.start < item.span.stop ∧ item.span.stop ≤ source.length
  atEnd : item.isEnd → item.span.start = source.length ∧ item.span.stop = source.length

theorem Reached.placed {source read blanks taken : List Char} {l l' : Lexer} {item : Item}
    (h : Reached source read l) (htakes : l.Takes blanks taken item l') :
    Placed source read.length item := by
  obtain ⟨hstart, hstop⟩ := h.span_eq htakes
  have hlength : source.length =
      read.length + blanks.length + taken.length + l'.rest.length := by
    rw [← h.append, ← htakes.append]
    simp [Nat.add_assoc]
  constructor
  case start_le => omega
  case gap => rw [h.gap_eq htakes]; exact htakes.blank
  case starts => rw [h.slice_eq htakes]; exact htakes.starts
  case extent =>
    intro hend
    have hne : taken ≠ [] := fun hnil => by simp [htakes.taken_eq_nil_iff.1 hnil] at hend
    have := List.length_pos_iff.2 hne
    omega
  case atEnd =>
    intro hend
    have htaken : taken.length = 0 := by simp [htakes.taken_eq_nil_iff.2 hend]
    have hrest : l'.rest.length = 0 := by simp [htakes.rest_eq_nil hend]
    omega

/-! ## All items -/

/-- The items of `source` after its first `start` characters, up to the last one. -/
inductive Tiling (source : List Char) : Nat → List Item → Prop
  | last {start : Nat} {item : Item} (hplaced : Placed source start item) :
      Tiling source start [item]
  | token {start : Nat} {item : Item} {items : List Item} (hplaced : Placed source start item)
      (hend : item.isEnd = false) (others : Tiling source item.span.stop items) :
      Tiling source start (item :: items)

theorem Yields.tiling {source read : List Char} {l l' : Lexer} {tokens : List Token} {last : Item}
    (h : l.Yields tokens last l') (active : l.state = .active) (hreached : Reached source read l) :
    Tiling source read.length (tokens.map .ok ++ [last]) := by
  induction h generalizing read with
  | last hnext _ =>
    obtain ⟨blanks, taken, htakes⟩ := (pull_of_next hnext).exists_takes active
    exact .last (hreached.placed htakes)
  | token hnext hend _ ih =>
    have hpull := pull_of_next hnext
    obtain ⟨blanks, taken, htakes⟩ := hpull.exists_takes active
    refine .token (hreached.placed htakes) hend ?_
    have hothers := ih (hpull.active_of_token hend).2 (hreached.next htakes)
    rwa [List.length_append, List.length_append, ← Nat.add_assoc,
      ← (hreached.span_eq htakes).2] at hothers

theorem tiling_drain (source : String) : Tiling source.toList 0 (ofString source).drain.items := by
  obtain ⟨tokens, last, l', hyields⟩ := exists_yields (ofString source)
  rw [hyields.items_drain]
  exact hyields.tiling rfl (reached_ofString source)

namespace Tiling

variable {source : List Char} {start : Nat} {items : List Item}

/-- Every item but the last one takes up a character. -/
theorem length_le (h : Tiling source start items) (hstart : start ≤ source.length) :
    start + items.length ≤ source.length + 1 := by
  induction h with
  | last => simpa using hstart
  | token hplaced hend _ ih =>
    obtain ⟨hlt, hle⟩ := hplaced.extent hend
    have hothers := ih hle
    have := hplaced.start_le
    simp only [List.length_cons]
    omega

theorem exists_placed (h : Tiling source start items) :
    ∀ item ∈ items, ∃ start, Placed source start item := by
  induction h with
  | last hplaced => exact List.forall_mem_singleton.2 ⟨_, hplaced⟩
  | token hplaced _ _ ih => exact List.forall_mem_cons.2 ⟨⟨_, hplaced⟩, ih⟩

theorem start_le_of_mem (h : Tiling source start items) :
    ∀ item ∈ items, start ≤ item.span.start := by
  induction h with
  | last hplaced => exact List.forall_mem_singleton.2 hplaced.start_le
  | token hplaced hend _ ih =>
    refine List.forall_mem_cons.2 ⟨hplaced.start_le, ?_⟩
    intro item hitem
    have hlt := (hplaced.extent hend).1
    exact Nat.le_trans hplaced.start_le (Nat.le_trans (Nat.le_of_lt hlt) (ih item hitem))

/-- The items come in the order of their places. -/
theorem pairwise_start (h : Tiling source start items) :
    items.Pairwise fun item other => item.span.start ≤ other.span.start := by
  induction h with
  | last => exact List.pairwise_singleton _ _
  | token hplaced hend others ih =>
    refine List.pairwise_cons.2 ⟨?_, ih⟩
    intro item hitem
    have hlt := (hplaced.extent hend).1
    exact Nat.le_trans (Nat.le_of_lt hlt) (others.start_le_of_mem item hitem)

/-- Consecutive items do not overlap, and only blanks are between them. -/
theorem isChain (h : Tiling source start items) {before : Span} (hbefore : before.stop = start) :
    (before :: items.map Item.span).IsChain fun s t =>
      s.stop ≤ t.start ∧ ∀ c ∈ source.extract s.stop t.start, Text.isBlank c := by
  induction h generalizing before with
  | last hplaced =>
    subst hbefore
    exact List.isChain_pair.2 ⟨hplaced.start_le, hplaced.gap⟩
  | token hplaced _ _ ih =>
    subst hbefore
    exact List.isChain_cons_cons.2 ⟨⟨hplaced.start_le, hplaced.gap⟩, ih rfl⟩

end Tiling

/-! ## The text from its pieces -/

/-- What lies before each span and what the span holds, from `start` on, one after the other. -/
def pieces (source : List Char) (start : Nat) : List Span → List Char
  | [] => []
  | s :: spans => source.extract start s.start ++ s.slice source ++ pieces source s.stop spans

theorem extract_append_extract {source : List Char} {a b c : Nat} (hab : a ≤ b) (hbc : b ≤ c) :
    source.extract a b ++ source.extract b c = source.extract a c := by
  obtain ⟨m, rfl⟩ := Nat.exists_eq_add_of_le hab
  obtain ⟨n, rfl⟩ := Nat.exists_eq_add_of_le hbc
  have hlength : a + m + n - a = m + n := by omega
  simp only [List.extract_eq_take_drop, hlength, Nat.add_sub_cancel_left, List.take_add,
    List.drop_drop]

/-- The pieces of a text that is read to its end are the text. -/
theorem Tiling.pieces_eq {source : List Char} {start : Nat} {items : List Item}
    (h : Tiling source start items) (hlast : ∀ item ∈ items.getLast?, item.isEnd) :
    pieces source start (items.map Item.span) = source.drop start := by
  have hwhole : ∀ start, source.extract start source.length = source.drop start := by
    intro start
    rw [List.extract_eq_take_drop, List.take_of_length_le (by simp)]
  induction h with
  | last hplaced =>
    obtain ⟨hstart, hstop⟩ := hplaced.atEnd (hlast _ rfl)
    simp [pieces, Span.slice, hstart, hstop, hwhole]
  | @token start item items hplaced hend others ih =>
    have hne : items ≠ [] := by
      rintro rfl
      cases others
    have htail : ∀ item ∈ items.getLast?, item.isEnd := by
      intro other hother
      exact hlast other (by rw [List.getLast?_cons_of_ne_nil hne]; exact hother)
    obtain ⟨hlt, hle⟩ := hplaced.extent hend
    have hstart := hplaced.start_le
    rw [List.map_cons, pieces, ih htail, Span.slice, ← hwhole,
      extract_append_extract hstart (Nat.le_of_lt hlt),
      extract_append_extract (Nat.le_trans hstart (Nat.le_of_lt hlt)) hle, hwhole]

/-! ## Main statement -/

/-- How the items of a text lie in it. The empty span stands for the start of the text. -/
structure Tiles (source : List Char) (items : List Item) : Prop where
  length_le : items.length ≤ source.length + 1
  /-- The last item and no other is the end of the text or an error. -/
  ends : ∃ before last, items = before ++ [last] ∧ last.isLast ∧
    ∀ item ∈ before, item.isLast = false
  /-- Consecutive items do not overlap, and only blanks are between them and before the first. -/
  separated : (({} : Span) :: items.map Item.span).IsChain fun s t =>
    s.stop ≤ t.start ∧ ∀ c ∈ source.extract s.stop t.start, Text.isBlank c
  extent : ∀ item ∈ items, item.isEnd = false →
    item.span.start < item.span.stop ∧ item.span.stop ≤ source.length
  atEnd : ∀ item ∈ items, item.isEnd →
    item.span.start = source.length ∧ item.span.stop = source.length
  starts : ∀ item ∈ items, ∀ c ∈ (item.span.slice source).head?, Text.isBlank c = false
  /-- Without an error, the blanks and the tokens in order are the text. -/
  whole : (∀ error, .error error ∉ items) → pieces source 0 (items.map Item.span) = source

/-- The items of every text tile it. -/
theorem tiles_drain (source : String) :
    Tiles source.toList (ofString source).drain.items := by
  have htiling := tiling_drain source
  obtain ⟨tokens, last, l', hyields⟩ := exists_yields (ofString source)
  have hitems := hyields.items_drain
  constructor
  case length_le => simpa using htiling.length_le (Nat.zero_le _)
  case ends =>
    refine ⟨tokens.map .ok, last, hitems, hyields.isLast, ?_⟩
    simpa [Item.isLast] using hyields.isEnd_of_mem
  case separated => exact htiling.isChain rfl
  case extent =>
    intro item hitem
    obtain ⟨start, hplaced⟩ := htiling.exists_placed item hitem
    exact hplaced.extent
  case atEnd =>
    intro item hitem
    obtain ⟨start, hplaced⟩ := htiling.exists_placed item hitem
    exact hplaced.atEnd
  case starts =>
    intro item hitem
    obtain ⟨start, hplaced⟩ := htiling.exists_placed item hitem
    exact hplaced.starts
  case whole =>
    intro hnone
    apply htiling.pieces_eq
    rw [hitems] at hnone ⊢
    intro item hitem
    obtain rfl : last = item := by simpa using hitem
    cases last with
    | error error => exact absurd (List.mem_append_right _ List.mem_cons_self) (hnone error)
    | ok token => exact hyields.isLast

end BlockLang.Lexer
