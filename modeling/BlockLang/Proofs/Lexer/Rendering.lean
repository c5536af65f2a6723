-- SUMMARY: What reading comes to is determined by the lexemes that a text is written with.
import BlockLang.Proofs.Lexer.Layout
import BlockLang.Proofs.Lexer.Lexemes

namespace BlockLang

/-!
# Renderings

A text that renders some lexemes is read as these, up to the first numeral that is too large. What
the tokens and the tables hold is found by recording the lexemes one after the other, and the blanks
between them do not matter: `Layout.Renders.comes_drain`.
-/

/-! ## Recording lexemes -/

/-- What a token tells apart from where it is. -/
def Token.entry (t : Token) : Token.Kind × Option Nat := (t.kind, t.index)

/-- The kinds and indices of some lexemes that are recorded one after the other, and the tables
after them. -/
def Tables.recordAll (t : Tables) : List Lexeme → List (Token.Kind × Option Nat) × Tables
  | [] => ([], t)
  | lexeme :: lexemes =>
    let (index, t) := t.record lexeme
    let (entries, t) := t.recordAll lexemes
    ((lexeme.kind, index) :: entries, t)

namespace Lexer

/-- The end of a text is a token unless there is a fault before it. -/
def endEntries (fault : Option LexicalFault) : List (Token.Kind × Option Nat) :=
  if fault.isNone then [(.endOfInput, none)] else []

/-- A drained lexer had `tables` when it came to read `lexemes`, and ended with `fault`. -/
structure Drained.Comes (d : Drained) (tables : Tables) (lexemes : List Lexeme)
    (fault : Option LexicalFault) : Prop where
  entries : d.tokens.map Token.entry = (tables.recordAll lexemes).1 ++ endEntries fault
  failure : d.failure.map (·.fault) = fault
  tables : d.lexer.tables = (tables.recordAll lexemes).2

theorem comes_drain (l : Lexer) (active : l.state = .active) :
    l.drain.Comes l.tables (lexemes l.position l.rest).1
      ((lexemes l.position l.rest).2.map (·.fault)) := by
  induction l using drain.induct with
  | case1 l error l' hnext =>
    rw [drain_of_error hnext]
    cases pull_of_next hnext with
    | halted hhalted => cases active.symm.trans hhalted
    | fault _ hsplits hread herror =>
      rw [lexemes_of_splits hsplits, hread, herror]
      exact ⟨rfl, rfl, rfl⟩
  | case2 l token l' hnext hend =>
    rw [drain_of_end hnext hend]
    cases pull_of_next hnext with
    | finished hfinished => cases active.symm.trans hfinished
    | finish _ hblanks =>
      have hsplits : Text.Splits Text.isBlank _ _ [] := ⟨List.append_nil _, hblanks, by simp⟩
      rw [lexemes_of_splits hsplits]
      exact ⟨rfl, rfl, rfl⟩
    | lexeme => simp [isEnd_tokenAt] at hend
  | case3 l token l' hnext hend ih =>
    rw [drain_of_token hnext (by simpa using hend)]
    cases pull_of_next hnext with
    | finished | finish => exact absurd rfl hend
    | lexeme _ hsplits hread =>
      obtain ⟨hentries, hfailure, htables⟩ := ih rfl
      rw [lexemes_of_splits hsplits, hread]
      exact ⟨congrArg (_ :: ·) hentries, hfailure, htables⟩

end Lexer

/-! ## Numerals that are too large -/

namespace Lexeme

/-- The fault that a lexeme is: the value of a numeral may not fit in a word. -/
def rangeFault? : Lexeme → Option LexicalFault
  | numeral digits =>
    if FitsWord (numeralValue digits.toList) then none else some (.numeralOutOfRange digits)
  | _ => none

theorem rangeFault?_eq_none_iff {l : Lexeme} : l.rangeFault? = none ↔ l.InRange := by
  cases l with
  | numeral digits => simp [rangeFault?, InRange]
  | _ => exact iff_of_true rfl trivial

/-- A lexeme is read wherever it is written, or it is the fault that is met there. -/
theorem read_append_of_fault {l : Lexeme} (hl : l.WellFormed) {rest : List Char}
    (hends : l.EndsBefore rest) {fault : LexicalFault} (hfault : l.rangeFault? = some fault) :
    read (l.spelling ++ rest) = .fault fault l.spelling rest := by
  cases l with
  | numeral digits =>
    simp only [rangeFault?] at hfault
    split at hfault
    · cases hfault
    · next hvalue =>
      obtain rfl := Option.some.inj hfault
      exact (read_numeral_append hl hends).trans (if_neg hvalue)
  | _ => cases hfault

/-- The lexemes before the first one that is a fault. -/
def readable (lexemes : List Lexeme) : List Lexeme :=
  lexemes.takeWhile (·.rangeFault?.isNone)

def firstFault? (lexemes : List Lexeme) : Option LexicalFault :=
  lexemes.findSome? (·.rangeFault?)

theorem readable_cons {l : Lexeme} (h : l.rangeFault? = none) (lexemes : List Lexeme) :
    readable (l :: lexemes) = l :: readable lexemes := by
  simp [readable, h]

theorem firstFault?_cons {l : Lexeme} (h : l.rangeFault? = none) (lexemes : List Lexeme) :
    firstFault? (l :: lexemes) = firstFault? lexemes := by
  simp [firstFault?, h]

end Lexeme

/-! ## Texts that render lexemes -/

namespace Layout

/-- The layout is one of these lexemes, and it keeps apart those that would glue. -/
structure Renders (layout : Layout) (lexemes : List Lexeme) : Prop where
  leading : ∀ c ∈ layout.leading, Text.isBlank c
  blanks : ∀ piece ∈ layout.pieces, ∀ c ∈ piece.2, Text.isBlank c
  lexemes_eq : layout.pieces.map Prod.fst = lexemes
  separated : layout.Separated

/-- Separated lexemes are those of their text, up to the first that is a fault. -/
theorem lexemes_of_separated {blanks : List Char} {pieces : List (Lexeme × List Char)}
    (hblanks : ∀ c ∈ blanks, Text.isBlank c) (hpieces : ∀ piece ∈ pieces, piece.1.WellFormed)
    (hafter : ∀ piece ∈ pieces, ∀ c ∈ piece.2, Text.isBlank c)
    (hseparated : SeparatedPieces pieces) (start : Position) :
    let found := Lexer.lexemes start (blanks ++ textOf pieces)
    found.1 = Lexeme.readable (pieces.map Prod.fst) ∧
      found.2.map (·.fault) = Lexeme.firstFault? (pieces.map Prod.fst) := by
  induction pieces generalizing blanks start with
  | nil =>
    have hsplits : Text.Splits Text.isBlank (blanks ++ []) blanks [] := ⟨rfl, hblanks, by simp⟩
    rw [textOf, List.flatMap_nil, Lexer.lexemes_of_splits hsplits]
    exact ⟨rfl, rfl⟩
  | cons piece pieces ih =>
    have hsplits : Text.Splits Text.isBlank (blanks ++ textOf (piece :: pieces)) blanks
        (textOf (piece :: pieces)) := ⟨rfl, hblanks, head?_textOf_not_blank hpieces⟩
    obtain ⟨lexeme, after⟩ := piece
    obtain ⟨hlexeme, hpieces'⟩ := List.forall_mem_cons.1 hpieces
    obtain ⟨hafter, hafter'⟩ := List.forall_mem_cons.1 hafter
    obtain ⟨hglues, hseparated'⟩ := separatedPieces_cons_iff.1 hseparated
    have hends := (endsBefore_iff hafter hpieces').2 hglues
    rw [Lexer.lexemes_of_splits hsplits, textOf_cons, List.map_cons]
    -- A fault ends the lexemes of the text, whatever is written after it.
    cases hfault : lexeme.rangeFault? with
    | none =>
      have hread := Lexeme.read_append hlexeme (Lexeme.rangeFault?_eq_none_iff.1 hfault) hends
      rw [hread, Lexeme.readable_cons hfault, Lexeme.firstFault?_cons hfault]
      obtain ⟨hfound, hfirst⟩ := ih hafter hpieces' hafter' hseparated'
        ((start.advance blanks).advance lexeme.spelling)
      exact ⟨congrArg (lexeme :: ·) hfound, hfirst⟩
    | some fault =>
      rw [Lexeme.read_append_of_fault hlexeme hends hfault]
      simp [Lexeme.readable, Lexeme.firstFault?, hfault]

/-- What reading comes to is determined by the lexemes that are rendered. -/
theorem Renders.comes_drain {layout : Layout} {lexemes : List Lexeme} (h : layout.Renders lexemes)
    (hlexemes : ∀ lexeme ∈ lexemes, lexeme.WellFormed) :
    (Lexer.ofString layout.text).drain.Comes {} (Lexeme.readable lexemes)
      (Lexeme.firstFault? lexemes) := by
  obtain ⟨hleading, hblanks, rfl, hseparated⟩ := h
  have hpieces : ∀ piece ∈ layout.pieces, piece.1.WellFormed :=
    fun piece hpiece => hlexemes _ (List.mem_map_of_mem hpiece)
  obtain ⟨hfound, hfault⟩ := lexemes_of_separated hleading hpieces hblanks hseparated {}
  have hrest : (Lexer.ofString layout.text).rest = layout.leading ++ textOf layout.pieces := by
    simp [Lexer.ofString, text]
  rw [← hfound, ← hfault, ← hrest]
  exact Lexer.comes_drain (Lexer.ofString layout.text) rfl

end Layout

end BlockLang
