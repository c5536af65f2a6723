-- SUMMARY: The payloads of tokens, and that they determine the indices of the tokens.
import BlockLang.Proofs.Lexer.Lexemes
import BlockLang.Proofs.Tables

namespace BlockLang

/-!
# Payloads

The index of a token says where its payload is kept. It is also determined by the payloads alone: a
pull enters the payload of its token into the tables, and the index is what the tables give for it.
So the payloads of all tokens, in order, tell the indices: `explained_drain`.
-/

/-- What a token stands for beyond its kind. -/
inductive Payload where
  | name (text : String)
  | value (n : Nat)
  | contents (text : String)
  | character (c : Char)
deriving DecidableEq, Repr

/-- The payload of a lexeme, unless its kind tells all about it. -/
def Lexeme.payload? : Lexeme → Option Payload
  | identifier name => some (.name name)
  | numeral digits => some (.value (numeralValue digits.toList))
  | stringLiteral contents => some (.contents contents)
  | character c => some (.character c)
  | keyword _ | mark _ | unknown _ => none

namespace Tables

/-- The payload of a token, looked up by its index. -/
def payload? (t : Tables) (token : Token) : Option Payload :=
  token.index.bind fun index => match token.kind with
    | .identifier => (t.names.name? ⟨index⟩).map .name
    | .numeral => t.literals.numerals[index]?.map .value
    | .stringLiteral => t.literals.strings[index]?.map .contents
    | .character => t.literals.characters[index]?.map .character
    | .keyword _ | .mark _ | .endOfInput | .unknown _ => none

/-- Enter the payload of a token, if it has one, and give the index of its entry. -/
def enter (t : Tables) : Option Payload → Option Nat × Tables
  | some (.name text) =>
    let (id, names) := t.names.intern text
    (some id.index, { t with names })
  | some (.value n) =>
    let (index, literals) := t.literals.addNumeral n
    (some index, { t with literals })
  | some (.contents text) =>
    let (index, literals) := t.literals.addString text
    (some index, { t with literals })
  | some (.character c) =>
    let (index, literals) := t.literals.addCharacter c
    (some index, { t with literals })
  | none => (none, t)

/-- The indices of tokens with given payloads. -/
def indices (t : Tables) : List (Option Payload) → List (Option Nat)
  | [] => []
  | payload :: payloads => (t.enter payload).1 :: (t.enter payload).2.indices payloads

/-- What is recorded of a lexeme is its payload. -/
theorem record_eq_enter (t : Tables) (lexeme : Lexeme) :
    t.record lexeme = t.enter lexeme.payload? := by
  cases lexeme <;> rfl

end Tables

namespace Lexer

/-- A token of a lexeme has its payload. -/
theorem Stands.payload?_eq {tables : Tables} {token : Token} {lexeme : Lexeme}
    (h : Stands tables token lexeme) : tables.payload? token = lexeme.payload? := by
  obtain ⟨hkind, hpayload⟩ := h
  cases lexeme with
  | identifier | numeral | stringLiteral | character =>
    obtain ⟨i, hindex, hentry⟩ := hpayload
    simp [Tables.payload?, hkind, hindex, hentry, Lexeme.kind, Lexeme.payload?]
  | keyword | mark | unknown =>
    have hindex : token.index = none := hpayload
    rw [Tables.payload?, hindex]
    rfl

/-- A token stands for a lexeme, or for the end of the text. -/
inductive Explained (tables : Tables) (token : Token) : Prop
  | lexeme {lexeme : Lexeme} (hlexeme : lexeme.WellFormed) (hstands : Stands tables token lexeme)
  | finish (hkind : token.kind = .endOfInput) (hindex : token.index = none)

theorem payload?_of_index_eq_none (tables : Tables) {token : Token} (h : token.index = none) :
    tables.payload? token = none := by
  rw [Tables.payload?, h, Option.bind_none]

theorem Explained.mono {tables tables' : Tables} (hextends : tables'.Extends tables) {token : Token}
    (h : Explained tables token) : Explained tables' token := by
  cases h with
  | lexeme hlexeme hstands => exact .lexeme hlexeme (hstands.mono hextends)
  | finish hkind hindex => exact .finish hkind hindex

/-- The payload of a token stays the same, whatever is entered after it. -/
theorem Explained.payload?_eq {tables tables' : Tables} (hextends : tables'.Extends tables)
    {token : Token} (h : Explained tables token) :
    tables'.payload? token = tables.payload? token := by
  cases h with
  | lexeme _ hstands => rw [hstands.payload?_eq, (hstands.mono hextends).payload?_eq]
  | finish _ hindex => rw [payload?_of_index_eq_none _ hindex, payload?_of_index_eq_none _ hindex]

/-- A pull enters the payload of its token, and the token has the index that this gives. -/
theorem enter_payload?_next {l l' : Lexer} {token : Token} (hnames : l.tables.names.Inverse)
    (h : l.next = (.ok token, l')) :
    Explained l'.tables token ∧
      l.tables.enter (l'.tables.payload? token) = (token.index, l'.tables) := by
  cases pull_of_next h with
  | finished | finish => exact ⟨.finish rfl rfl, rfl⟩
  | @lexeme _ lexeme blanks rest hsplits hread =>
    have hwellFormed := (Lexeme.isReadable_of_read hsplits.stops hread).wellFormed
    have hstands := stands_tokenAt hnames (l.position.advance blanks) lexeme
    refine ⟨.lexeme hwellFormed hstands, ?_⟩
    change l.tables.enter ((l.tables.record lexeme).2.payload? (tokenAt l.tables _ lexeme)) = _
    rw [hstands.payload?_eq, ← Tables.record_eq_enter]
    rfl

/-- The tokens of a text stand for something, and their payloads determine their indices. -/
theorem explained_drain {l : Lexer} (hnames : l.tables.names.Inverse) :
    (∀ token ∈ l.drain.tokens, Explained l.drain.lexer.tables token) ∧
      l.drain.tokens.map (·.index) =
        l.tables.indices (l.drain.tokens.map l.drain.lexer.tables.payload?) := by
  induction l using drain.induct with
  | case1 l error l' hnext =>
    rw [drain_of_error hnext]
    exact ⟨List.forall_mem_nil _, rfl⟩
  | case2 l token l' hnext hend =>
    obtain ⟨hexplained, henter⟩ := enter_payload?_next hnames hnext
    rw [drain_of_end hnext hend]
    refine ⟨List.forall_mem_singleton.2 hexplained, ?_⟩
    simp only [List.map_cons, List.map_nil, Tables.indices, henter]
  | case3 l token l' hnext hend ih =>
    obtain ⟨hexplained, henter⟩ := enter_payload?_next hnames hnext
    obtain ⟨hothers, hindices⟩ := ih (inverse_of_next hnext hnames)
    have hextends := extends_drain l'
    rw [drain_of_token hnext (by simpa using hend)]
    refine ⟨List.forall_mem_cons.2 ⟨hexplained.mono hextends, hothers⟩, ?_⟩
    simp only [List.map_cons, Tables.indices, hexplained.payload?_eq hextends, henter, hindices]

end Lexer

end BlockLang
