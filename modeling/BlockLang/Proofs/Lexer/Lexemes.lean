-- SUMMARY: The lexemes that a text is made of, and the tokens that stand for them.
import BlockLang.Proofs.Lexer.Stream
import Mathlib.Data.List.Forall2

namespace BlockLang.Lexer

/-!
# The lexemes of a text

A text has lexemes before any of them is numbered or recorded. The tokens of a lexer stand for
these: each has the kind of its lexeme, and its entry in the tables is the payload of the lexeme.
-/

/-- The lexemes of a text that starts at `start`, and what keeps it from being read to its end. -/
def lexemes (start : Position) (text : List Char) : List Lexeme × Option LexicalError :=
  let place := start.advance (text.takeWhile Text.isBlank)
  match _h : Lexeme.read (text.dropWhile Text.isBlank) with
  | .nothing => ([], none)
  | .lexeme lexeme rest =>
    let (others, failure) := lexemes (place.advance lexeme.spelling) rest
    (lexeme :: others, failure)
  | .fault fault consumed _ =>
    ([], some ⟨fault, place.to (place.advance consumed)⟩)
termination_by text.length
decreasing_by
  exact Nat.lt_of_lt_of_le (Lexeme.length_rest_lt_of_read _h)
    (List.dropWhile_sublist Text.isBlank).length_le

/-- A token has the kind of a lexeme and its payload is in the tables. -/
structure Stands (tables : Tables) (token : Token) (lexeme : Lexeme) : Prop where
  kind : token.kind = lexeme.kind
  payload : tables.Holds token.index lexeme

theorem lexemes_of_splits {text blanks rest : List Char}
    (hsplits : Text.Splits Text.isBlank text blanks rest) (start : Position) :
    lexemes start text =
      match Lexeme.read rest with
      | .nothing => ([], none)
      | .lexeme lexeme rest =>
        let stop := (start.advance blanks).advance lexeme.spelling
        (lexeme :: (lexemes stop rest).1, (lexemes stop rest).2)
      | .fault fault consumed _ =>
        let place := start.advance blanks
        ([], some ⟨fault, place.to (place.advance consumed)⟩) := by
  rw [lexemes]
  split
  case h_1 hread =>
    rw [hsplits.dropWhile_eq] at hread
    rw [hread]
  case h_2 hread =>
    rw [hsplits.dropWhile_eq] at hread
    rw [hread, hsplits.takeWhile_eq]
  case h_3 hread =>
    rw [hsplits.dropWhile_eq] at hread
    rw [hread, hsplits.takeWhile_eq]

theorem stands_tokenAt {tables : Tables} (h : tables.names.Inverse) (start : Position)
    (lexeme : Lexeme) : Stands (tables.record lexeme).2 (tokenAt tables start lexeme) lexeme :=
  ⟨rfl, Tables.holds_record h lexeme⟩

/-- Each token stands for some lexeme as soon as it is pulled. -/
theorem exists_stands {l l' : Lexer} {token : Token} (h : l.tables.names.Inverse)
    (hnext : l.next = (.ok token, l')) (hend : token.isEnd = false) :
    ∃ lexeme, Stands l'.tables token lexeme := by
  cases pull_of_next hnext with
  | finished | finish => cases hend
  | lexeme => exact ⟨_, stands_tokenAt h _ _⟩

/-- What stands for a lexeme does so ever after. -/
theorem Stands.mono {tables tables' : Tables} (hextends : tables'.Extends tables) {token : Token}
    {lexeme : Lexeme} (h : Stands tables token lexeme) : Stands tables' token lexeme :=
  ⟨h.kind, h.payload.mono hextends⟩

theorem Yields.extends {l l' : Lexer} {tokens : List Token} {last : Item}
    (h : l.Yields tokens last l') : l'.tables.Extends l.tables := by
  rw [h.lexer_eq_after]
  exact extends_after _ _

/-- What a lexer yields stands for the lexemes of its text, and fails as they do. -/
theorem Yields.forall₂_stands {l l' : Lexer} {tokens : List Token} {last : Item}
    (h : l.Yields tokens last l') (active : l.state = .active) (hnames : l.tables.names.Inverse) :
    List.Forall₂ (Stands l'.tables) tokens (lexemes l.position l.rest).1 ∧
      (lexemes l.position l.rest).2 = last.failure? := by
  induction h with
  | last hnext hlast =>
    cases pull_of_next hnext with
    | halted hhalted => cases active.symm.trans hhalted
    | finished hfinished => cases active.symm.trans hfinished
    | finish _ hblanks =>
      have hsplits : Text.Splits Text.isBlank _ _ [] := ⟨List.append_nil _, hblanks, by simp⟩
      rw [lexemes_of_splits hsplits]
      exact ⟨.nil, rfl⟩
    | lexeme => simp [Item.isLast, isEnd_tokenAt] at hlast
    | fault _ hsplits hread herror =>
      rw [lexemes_of_splits hsplits, hread, herror]
      exact ⟨.nil, rfl⟩
  | token hnext hend others ih =>
    cases pull_of_next hnext with
    | finished | finish => cases hend
    | lexeme _ hsplits hread =>
      obtain ⟨hstands, hfailure⟩ := ih rfl (Tables.inverse_record hnames _)
      rw [lexemes_of_splits hsplits, hread]
      exact ⟨.cons ((stands_tokenAt hnames _ _).mono others.extends) hstands, hfailure⟩

end BlockLang.Lexer
