-- SUMMARY: Writing lexemes out with blanks between them, and when the text is read back as these lexemes.
import BlockLang.Lexer.Drain
import BlockLang.Proofs.Lexer.LongestMatch
import BlockLang.Proofs.Tables
import Mathlib.Data.List.Chain

namespace BlockLang

/-!
# Layouts

A layout is a list of lexemes with blanks before, between and after them. It is read back as the
same lexemes exactly if no lexeme absorbs the first character of one that is written right after it:
`Layout.tokenize_iff_separated`.
-/

/-- Written without a blank between them, two lexemes are read as something else. -/
def Lexeme.Glues (a b : Lexeme) : Prop :=
  ∃ c ∈ b.spelling.head?, a.absorbs c

instance (a b : Lexeme) : Decidable (a.Glues b) :=
  inferInstanceAs (Decidable (∃ c ∈ b.spelling.head?, _))

theorem Lexeme.absorbs_of_isBlank {c : Char} (h : Text.isBlank c) (l : Lexeme) :
    l.absorbs c = false := by
  have hne : ∀ d, Text.isBlank d = false → c ≠ d := by
    rintro d hd rfl
    simp [h] at hd
  have hword : isWordPart c = false := by
    simp [isWordPart, Text.isAlphabetic_of_isBlank h, Text.isDigit_of_isBlank h, hne '_' rfl]
  cases l with
  | keyword _ | identifier _ => exact hword
  | numeral _ => exact Text.isDigit_of_isBlank h
  | mark m => cases m <;> simp [absorbs, Punctuation.absorbs, hne '=' rfl, hne '+' rfl, hne '-' rfl]
  | stringLiteral _ | character _ | unknown _ => rfl

/-- Some lexemes and the blanks around them. -/
structure Layout where
  /-- The blanks before the first lexeme. -/
  leading : List Char
  /-- The lexemes, each with the blanks after it. -/
  pieces : List (Lexeme × List Char)
deriving DecidableEq, Repr

namespace Layout

/-- The text of some lexemes, each with the blanks after it. -/
def textOf (pieces : List (Lexeme × List Char)) : List Char :=
  pieces.flatMap fun piece => piece.1.spelling ++ piece.2

def text (l : Layout) : String :=
  String.ofList (l.leading ++ textOf l.pieces)

/-- A lexeme that can be written and read, and blanks after it. -/
def IsPiece (piece : Lexeme × List Char) : Prop :=
  piece.1.WellFormed ∧ piece.1.InRange ∧ ∀ c ∈ piece.2, Text.isBlank c

instance : DecidablePred IsPiece :=
  fun _ => inferInstanceAs (Decidable (_ ∧ _))

theorem wellFormed_of_isPiece {pieces : List (Lexeme × List Char)}
    (h : ∀ piece ∈ pieces, IsPiece piece) : ∀ piece ∈ pieces, piece.1.WellFormed :=
  fun piece hpiece => (h piece hpiece).1

structure WellFormed (l : Layout) : Prop where
  leading : ∀ c ∈ l.leading, Text.isBlank c
  pieces : ∀ piece ∈ l.pieces, IsPiece piece

/-- Two lexemes without blanks between them do not glue. -/
def SeparatedPieces (pieces : List (Lexeme × List Char)) : Prop :=
  pieces.IsChain fun p q => p.2 = [] → ¬ p.1.Glues q.1

def Separated (l : Layout) : Prop :=
  SeparatedPieces l.pieces

instance : DecidablePred Separated :=
  fun l => inferInstanceAs (Decidable (l.pieces.IsChain fun p q => p.2 = [] → ¬ p.1.Glues q.1))

/-- `tokens` stand for the lexemes of `pieces`, which are written from `start` on, and for the end
of the text after them. Their payloads are in `tables`. -/
inductive Reads (tables : Tables) : Position → List (Lexeme × List Char) → List Token → Prop
  | nil {start : Position} : Reads tables start [] [{ kind := .endOfInput, span := start.to start }]
  | cons {start : Position} {lexeme : Lexeme} {blanks : List Char}
      {pieces : List (Lexeme × List Char)} {token : Token} {tokens : List Token}
      (kind : token.kind = lexeme.kind)
      (payload : tables.Holds token.index lexeme)
      (extent : token.span = start.to (start.advance lexeme.spelling))
      (others : Reads tables ((start.advance lexeme.spelling).advance blanks) pieces tokens) :
      Reads tables start ((lexeme, blanks) :: pieces) (token :: tokens)

/-! ## Separated lexemes -/

theorem textOf_cons (lexeme : Lexeme) (blanks : List Char) (pieces : List (Lexeme × List Char)) :
    textOf ((lexeme, blanks) :: pieces) = lexeme.spelling ++ (blanks ++ textOf pieces) := by
  simp [textOf]

theorem separatedPieces_cons_iff {piece : Lexeme × List Char} {pieces : List (Lexeme × List Char)} :
    SeparatedPieces (piece :: pieces) ↔
      (∀ q ∈ pieces.head?, piece.2 = [] → ¬ piece.1.Glues q.1) ∧ SeparatedPieces pieces :=
  List.isChain_cons

theorem head?_textOf {piece : Lexeme × List Char} (h : piece.1.WellFormed)
    (pieces : List (Lexeme × List Char)) :
    (textOf (piece :: pieces)).head? = piece.1.spelling.head? := by
  obtain ⟨c, cs, hc⟩ := List.exists_cons_of_ne_nil (Lexeme.spelling_ne_nil h)
  simp [textOf, hc]

/-- A text of lexemes does not start with a blank. -/
theorem head?_textOf_not_blank {pieces : List (Lexeme × List Char)}
    (h : ∀ piece ∈ pieces, piece.1.WellFormed) :
    ∀ c ∈ (textOf pieces).head?, Text.isBlank c = false := by
  cases pieces with
  | nil => simp [textOf]
  | cons piece pieces =>
    have hpiece := h piece List.mem_cons_self
    rw [head?_textOf hpiece]
    intro c hc
    obtain ⟨cs, hcs⟩ := List.head?_eq_some_iff.1 hc
    exact Lexeme.not_isBlank_of_spelling hpiece hcs

/-- A lexeme absorbs nothing of what is written after it exactly if it does not glue to the next
lexeme. -/
theorem endsBefore_iff {lexeme : Lexeme} {blanks : List Char} {pieces : List (Lexeme × List Char)}
    (hblanks : ∀ c ∈ blanks, Text.isBlank c) (h : ∀ piece ∈ pieces, piece.1.WellFormed) :
    lexeme.EndsBefore (blanks ++ textOf pieces) ↔
      ∀ q ∈ pieces.head?, blanks = [] → ¬ lexeme.Glues q.1 := by
  cases blanks with
  | cons c blanks =>
    have hc := Lexeme.absorbs_of_isBlank (hblanks c List.mem_cons_self) lexeme
    simp [Lexeme.EndsBefore, hc]
  | nil =>
    cases pieces with
    | nil => simp [Lexeme.EndsBefore, textOf]
    | cons piece pieces =>
      rw [Lexeme.EndsBefore, List.nil_append, head?_textOf (h piece List.mem_cons_self)]
      simp [Lexeme.Glues]

/-! ## Reading a layout -/

section

variable {l : Lexer} {blanks : List Char} {pieces : List (Lexeme × List Char)}

/-- Before the lexemes of a layout, a pull skips just the blanks. -/
theorem next_of_layout (active : l.state = .active) (hblanks : ∀ c ∈ blanks, Text.isBlank c)
    (hpieces : ∀ piece ∈ pieces, IsPiece piece) (hrest : l.rest = blanks ++ textOf pieces) :
    l.next = Lexer.readToken l.tables (l.position.advance blanks) (textOf pieces) :=
  Lexer.next_of_splits active ⟨hrest.symm, hblanks, head?_textOf_not_blank (wellFormed_of_isPiece hpieces)⟩

/-- Separated lexemes are read back. -/
theorem reads_of_separated (active : l.state = .active) (hnames : l.tables.names.Inverse)
    (hblanks : ∀ c ∈ blanks, Text.isBlank c) (hpieces : ∀ piece ∈ pieces, IsPiece piece)
    (hrest : l.rest = blanks ++ textOf pieces)
    (hseparated : SeparatedPieces pieces) :
    l.drain.failure = none ∧
      Reads l.drain.lexer.tables (l.position.advance blanks) pieces l.drain.tokens := by
  induction pieces generalizing l blanks with
  | nil =>
    have hnext := next_of_layout active hblanks hpieces hrest
    have hdrain := Lexer.drain_of_end hnext rfl
    rw [hdrain]
    exact ⟨rfl, .nil⟩
  | cons piece pieces ih =>
    obtain ⟨lexeme, after⟩ := piece
    obtain ⟨⟨hlexeme, hrange, hafter⟩, hpieces'⟩ := List.forall_mem_cons.1 hpieces
    obtain ⟨hglues, hseparated'⟩ := separatedPieces_cons_iff.1 hseparated
    have hends := (endsBefore_iff hafter (wellFormed_of_isPiece hpieces')).2 hglues
    have hread := Lexeme.read_append hlexeme hrange hends
    have hnext := next_of_layout active hblanks hpieces hrest
    rw [textOf_cons, Lexer.readToken_of_lexeme hread] at hnext
    obtain ⟨hfailure, hreads⟩ :=
      ih (l := Lexer.afterLexeme l.tables (l.position.advance blanks) lexeme (after ++ textOf pieces))
        rfl (Tables.inverse_record hnames lexeme) hafter hpieces' rfl hseparated'
    rw [Lexer.drain_of_token hnext (Lexer.isEnd_tokenAt _ _ _)]
    refine ⟨hfailure, .cons rfl ?_ rfl hreads⟩
    exact (Tables.holds_record hnames lexeme).mono (Lexer.extends_drain _)

theorem drain_tokens_of_next {l' : Lexer} {token : Token} (h : l.next = (.ok token, l')) :
    ∃ tokens, l.drain.tokens = token :: tokens := by
  cases hend : token.isEnd with
  | true => exact ⟨[], by rw [Lexer.drain_of_end h hend]⟩
  | false => exact ⟨_, by rw [Lexer.drain_of_token h hend]⟩

/-- Where a lexeme is read back, it is the one that is taken first, since it ends where it should. -/
theorem endsBefore_of_reads {tables : Tables} {start : Position} {lexeme : Lexeme}
    {after rest : List Char} (hlexeme : lexeme.WellFormed)
    (hnext : l.next = Lexer.readToken l.tables start (lexeme.spelling ++ rest))
    (hfailure : l.drain.failure = none)
    (hreads : Reads tables start ((lexeme, after) :: pieces) l.drain.tokens) :
    lexeme.EndsBefore rest := by
  obtain ⟨c, cs, hc⟩ := List.exists_cons_of_ne_nil (Lexeme.spelling_ne_nil hlexeme)
  have hblank : ∀ d ∈ (lexeme.spelling ++ rest).head?, Text.isBlank d = false := by
    intro d hd
    rw [hc, List.cons_append, List.head?_cons] at hd
    obtain rfl := Option.some.inj hd
    exact Lexeme.not_isBlank_of_spelling hlexeme hc
  rcases hitem : l.next with ⟨error | token, l'⟩
  · rw [Lexer.drain_of_error hitem] at hfailure
    cases hfailure
  obtain ⟨tokens, htokens⟩ := drain_tokens_of_next hitem
  rw [htokens] at hreads
  cases hreads with
  | cons kind payload extent others =>
    rw [hnext] at hitem
    obtain ⟨taken, rest', hread, rfl, -⟩ := (Lexer.readToken_eq_ok_iff (by simp [hc])).1 hitem
    have hreadable := Lexeme.isReadable_of_read hblank hread
    have hlength : taken.spelling.length = lexeme.spelling.length := by
      simpa [Lexer.tokenAt, Position.to, Position.advance] using extent
    obtain ⟨hspelling, rfl⟩ :=
      List.append_inj (Lexeme.spelling_append_of_read hread) hlength
    rw [← Lexeme.eq_of_spelling_eq hreadable.wellFormed hlexeme hspelling]
    exact hreadable.ends

/-- Lexemes that are read back are separated. -/
theorem separated_of_reads {tables : Tables} (active : l.state = .active)
    (hblanks : ∀ c ∈ blanks, Text.isBlank c) (hpieces : ∀ piece ∈ pieces, IsPiece piece)
    (hrest : l.rest = blanks ++ textOf pieces) (hfailure : l.drain.failure = none)
    (hreads : Reads tables (l.position.advance blanks) pieces l.drain.tokens) :
    SeparatedPieces pieces := by
  induction pieces generalizing l blanks with
  | nil => exact List.IsChain.nil
  | cons piece pieces ih =>
    obtain ⟨lexeme, after⟩ := piece
    obtain ⟨⟨hlexeme, hrange, hafter⟩, hpieces'⟩ := List.forall_mem_cons.1 hpieces
    have hnext := next_of_layout active hblanks hpieces hrest
    rw [textOf_cons] at hnext
    have hends := endsBefore_of_reads hlexeme hnext hfailure hreads
    rw [Lexer.readToken_of_lexeme (Lexeme.read_append hlexeme hrange hends)] at hnext
    rw [Lexer.drain_of_token hnext (Lexer.isEnd_tokenAt _ _ _)] at hfailure hreads
    cases hreads with
    | cons kind payload extent others =>
      have hglues := (endsBefore_iff hafter (wellFormed_of_isPiece hpieces')).1 hends
      refine separatedPieces_cons_iff.2 ⟨hglues, ?_⟩
      exact ih rfl hafter hpieces' rfl hfailure others

end

/-- A layout is read back as its lexemes, with their payloads and extents and with the end of the
text after them, exactly if its lexemes are separated. -/
theorem tokenize_iff_separated (layout : Layout) (h : layout.WellFormed) :
    (∃ tokens l, (Lexer.ofString layout.text).tokenize = (.ok tokens, l) ∧
      Reads l.tables (Position.advance {} layout.leading) layout.pieces tokens) ↔
      layout.Separated := by
  have hrest : (Lexer.ofString layout.text).rest = layout.leading ++ textOf layout.pieces := by
    simp [Lexer.ofString, text]
  constructor
  · rintro ⟨tokens, l, htokenize, hreads⟩
    cases hfailure : (Lexer.ofString layout.text).drain.failure with
    | some error => simp [Lexer.tokenize, hfailure] at htokenize
    | none =>
      simp only [Lexer.tokenize, hfailure, Prod.mk.injEq, Except.ok.injEq] at htokenize
      obtain ⟨rfl, rfl⟩ := htokenize
      exact separated_of_reads rfl h.leading h.pieces hrest hfailure hreads
  · intro hseparated
    obtain ⟨hfailure, hreads⟩ := reads_of_separated rfl (Lexer.inverse_ofString _) h.leading h.pieces hrest hseparated
    exact ⟨_, _, by simp only [Lexer.tokenize, hfailure], hreads⟩

/-- A word, a mark that absorbs nothing and another mark need no blanks between them. -/
theorem tokenize_iff_separated_adjacent :
    let layout : Layout := ⟨['\n'], [(.identifier "x1", []), (.mark .lessOrEqual, []),
      (.mark .equals, [' ']), (.unknown '_', [])]⟩
    layout.WellFormed ∧ layout.Separated ∧
      ∃ tokens l, (Lexer.ofString layout.text).tokenize = (.ok tokens, l) ∧
        Reads l.tables (Position.advance {} layout.leading) layout.pieces tokens := by
  intro layout
  have h : layout.WellFormed := ⟨by decide, by decide⟩
  have hseparated : layout.Separated := by decide
  exact ⟨h, hseparated, (tokenize_iff_separated layout h).2 hseparated⟩

end Layout

end BlockLang
