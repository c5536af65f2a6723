-- SUMMARY: The tables are a record of the tokens that have been pulled.
import BlockLang.Proofs.Lexer.Stream
import BlockLang.Proofs.NameTable
import BlockLang.Proofs.Tables
import Mathlib.Data.List.Forall2

namespace BlockLang.Lexer

/-!
# Entries

At any time the tables tell exactly which tokens have been pulled. Each table of literals lists the
payloads of the tokens of its kind in order, and the table of names lists the different identifiers
in order of first appearance. `Recorded` states this against the source, and `recorded_after` says
that it holds after any number of pulls.
-/

/-! ## What the tables should hold -/

def ofKind (tokens : List Token) (kind : Token.Kind) : List Token :=
  tokens.filter (·.kind = kind)

/-- `entries` are the payloads of `tokens` in order, and the tokens number them. What a token is
written with and its payload are related by `writes`. -/
structure Lists {α : Type} (source : List Char) (writes : List Char → α → Prop)
    (tokens : List Token) (entries : List α) : Prop where
  indices : tokens.map (·.index) = (List.range entries.length).map some
  payloads : List.Forall₂ (fun token entry => writes (token.span.slice source) entry) tokens entries

/-- A numeral stands for the value of its digits. -/
def WritesNumeral (text : List Char) (value : Nat) : Prop :=
  Lexeme.IsNumeral text ∧ Lexeme.numeralValue text = value

/-- A string stands for what is between its quotes. -/
def WritesString (text : List Char) (contents : String) : Prop :=
  text = '"' :: contents.toList ++ ['"']

/-- A quoted character stands for itself. -/
def WritesCharacter (text : List Char) (c : Char) : Prop :=
  text = ['\'', c, '\'']

/-- The literal tables hold the payloads of the literals among `tokens`. -/
structure RecordedLiterals (source : List Char) (tokens : List Token) (literals : LiteralTables) :
    Prop where
  numerals : Lists source WritesNumeral (ofKind tokens .numeral) literals.numerals.toList
  strings : Lists source WritesString (ofKind tokens .stringLiteral) literals.strings.toList
  characters : Lists source WritesCharacter (ofKind tokens .character) literals.characters.toList

def textIn (source : List Char) (token : Token) : String :=
  String.ofList (token.span.slice source)

/-- The name table holds the texts of the identifiers among `tokens`. -/
structure RecordedNames (source : List Char) (tokens : List Token) (names : NameTable) : Prop where
  /-- The names are those of the identifiers, in order of first appearance. -/
  names_eq : names.names.toList = ((ofKind tokens .identifier).map (textIn source)).eraseDups
  index_eq : ∀ token ∈ ofKind tokens .identifier,
    token.index = some (names.names.toList.idxOf (textIn source token))
  /-- The numbers of names are found just as names are read back. -/
  inverse : names.Inverse
  unreserved : ∀ name ∈ names.names.toList, Keyword.ofSpelling? name = none

/-- The tables hold what `tokens` stand for in `source`, and nothing else. -/
structure Recorded (source : List Char) (tokens : List Token) (tables : Tables) : Prop where
  literals : RecordedLiterals source tokens tables.literals
  names : RecordedNames source tokens tables.names
  /-- Only identifiers and literals have entries. -/
  others : ∀ token ∈ tokens, token.kind ≠ .identifier → token.kind.isLiteral = false →
    token.index = none

theorem recorded_nil (source : List Char) : Recorded source [] {} where
  literals := ⟨⟨rfl, .nil⟩, ⟨rfl, .nil⟩, ⟨rfl, .nil⟩⟩
  names := ⟨rfl, by simp [ofKind], NameTable.inverse_empty, by simp⟩
  others := by simp

/-! ## One more token -/

section Concat

variable {source : List Char} {tokens : List Token} {token : Token}

theorem ofKind_concat_of_eq {kind : Token.Kind} (h : token.kind = kind) :
    ofKind (tokens ++ [token]) kind = ofKind tokens kind ++ [token] := by
  simp [ofKind, h]

theorem ofKind_concat_of_ne {kind : Token.Kind} (h : token.kind ≠ kind) :
    ofKind (tokens ++ [token]) kind = ofKind tokens kind := by
  simp [ofKind, h]

/-- The next token of a kind gets the next entry. -/
theorem Lists.concat {α : Type} {writes : List Char → α → Prop} {kind : Token.Kind}
    {entries : Array α} (h : Lists source writes (ofKind tokens kind) entries.toList) {entry : α}
    (hkind : token.kind = kind) (hindex : token.index = some entries.size)
    (hwrites : writes (token.span.slice source) entry) :
    Lists source writes (ofKind (tokens ++ [token]) kind) (entries.push entry).toList := by
  rw [ofKind_concat_of_eq hkind, Array.toList_push]
  constructor
  case indices => simp [h.indices, hindex, List.range_succ]
  case payloads => exact List.rel_append h.payloads (.cons hwrites .nil)

/-- A token of another kind leaves a table as it is. -/
theorem Lists.concat_of_ne {α : Type} {writes : List Char → α → Prop} {kind : Token.Kind}
    {entries : List α} (h : Lists source writes (ofKind tokens kind) entries)
    (hkind : token.kind ≠ kind) :
    Lists source writes (ofKind (tokens ++ [token]) kind) entries := by
  rwa [ofKind_concat_of_ne hkind]

theorem RecordedLiterals.concat {tables : Tables} {lexeme : Lexeme}
    (h : RecordedLiterals source tokens tables.literals) (hlexeme : lexeme.WellFormed)
    (hkind : token.kind = lexeme.kind) (hindex : token.index = (tables.record lexeme).1)
    (hslice : token.span.slice source = lexeme.spelling) :
    RecordedLiterals source (tokens ++ [token]) (tables.record lexeme).2.literals := by
  have hne : ∀ kind, lexeme.kind ≠ kind → token.kind ≠ kind := fun _ hne => hkind ▸ hne
  obtain ⟨hnumerals, hstrings, hcharacters⟩ := h
  cases lexeme with
  | numeral digits =>
    have hwrites : WritesNumeral (token.span.slice source) (Lexeme.numeralValue digits.toList) := by
      rw [hslice]
      exact ⟨hlexeme, rfl⟩
    exact ⟨hnumerals.concat hkind hindex hwrites, hstrings.concat_of_ne (hne _ nofun),
      hcharacters.concat_of_ne (hne _ nofun)⟩
  | stringLiteral contents =>
    exact ⟨hnumerals.concat_of_ne (hne _ nofun), hstrings.concat hkind hindex hslice,
      hcharacters.concat_of_ne (hne _ nofun)⟩
  | character c =>
    exact ⟨hnumerals.concat_of_ne (hne _ nofun), hstrings.concat_of_ne (hne _ nofun),
      hcharacters.concat hkind hindex hslice⟩
  | keyword _ | identifier _ | mark _ | unknown _ =>
    exact ⟨hnumerals.concat_of_ne (hne _ nofun), hstrings.concat_of_ne (hne _ nofun),
      hcharacters.concat_of_ne (hne _ nofun)⟩

/-- The text of an identifier is interned. -/
theorem RecordedNames.concat {names : NameTable} (h : RecordedNames source tokens names)
    (hkind : token.kind = .identifier)
    (hindex : token.index = some (names.intern (textIn source token)).1.index)
    (hunreserved : Keyword.ofSpelling? (textIn source token) = none) :
    RecordedNames source (tokens ++ [token]) (names.intern (textIn source token)).2 := by
  constructor
  case names_eq =>
    rw [ofKind_concat_of_eq hkind, List.map_append, List.map_singleton]
    exact NameTable.toList_intern_of_eraseDups h.inverse h.names_eq _
  case index_eq =>
    rw [ofKind_concat_of_eq hkind]
    intro other hother
    rcases List.mem_append.1 hother with hother | hother
    · have hmem : textIn source other ∈ names.names.toList := by
        rw [h.names_eq, List.mem_eraseDups]
        exact List.mem_map_of_mem hother
      rw [NameTable.idxOf_intern h.inverse hmem]
      exact h.index_eq other hother
    · obtain rfl := List.mem_singleton.1 hother
      rw [← NameTable.index_intern h.inverse]
      exact hindex
  case inverse => exact NameTable.inverse_intern h.inverse _
  case unreserved =>
    intro name hname
    rw [NameTable.toList_intern h.inverse] at hname
    split at hname
    · exact h.unreserved name hname
    · rcases List.mem_append.1 hname with hname | hname
      · exact h.unreserved name hname
      · obtain rfl := List.mem_singleton.1 hname
        exact hunreserved

theorem RecordedNames.concat_of_ne {names : NameTable} (h : RecordedNames source tokens names)
    (hkind : token.kind ≠ .identifier) : RecordedNames source (tokens ++ [token]) names := by
  constructor
  case names_eq => rw [ofKind_concat_of_ne hkind]; exact h.names_eq
  case index_eq => rw [ofKind_concat_of_ne hkind]; exact h.index_eq
  case inverse => exact h.inverse
  case unreserved => exact h.unreserved

variable {tables : Tables}

theorem Recorded.others_concat (h : Recorded source tokens tables)
    (hindex : token.kind ≠ .identifier → token.kind.isLiteral = false → token.index = none) :
    ∀ other ∈ tokens ++ [token], other.kind ≠ .identifier → other.kind.isLiteral = false →
      other.index = none := by
  intro other hother
  rcases List.mem_append.1 hother with hother | hother
  · exact h.others other hother
  · obtain rfl := List.mem_singleton.1 hother
    exact hindex

/-- A token is recorded as the lexeme that it is written as. -/
theorem Recorded.concat (h : Recorded source tokens tables) {lexeme : Lexeme}
    (hlexeme : lexeme.WellFormed) (hkind : token.kind = lexeme.kind)
    (hindex : token.index = (tables.record lexeme).1)
    (hslice : token.span.slice source = lexeme.spelling) :
    Recorded source (tokens ++ [token]) (tables.record lexeme).2 where
  literals := h.literals.concat hlexeme hkind hindex hslice
  names := by
    cases lexeme with
    | identifier name =>
      obtain rfl : textIn source token = name := by simp [textIn, hslice, Lexeme.spelling]
      exact h.names.concat hkind hindex hlexeme.2
    | _ => exact h.names.concat_of_ne (by simp [hkind, Lexeme.kind])
  others := by
    apply h.others_concat
    rw [hkind, hindex]
    cases lexeme with
    | identifier name => exact fun hne _ => absurd rfl hne
    | numeral _ | stringLiteral _ | character _ =>
      intro _ hliteral
      cases hliteral
    | keyword _ | mark _ | unknown _ => exact fun _ _ => rfl

/-- The end of the text has no entry. -/
theorem Recorded.concat_endAt (h : Recorded source tokens tables) (place : Position) :
    Recorded source (tokens ++ [endAt place]) tables where
  literals := ⟨h.literals.numerals.concat_of_ne nofun, h.literals.strings.concat_of_ne nofun,
    h.literals.characters.concat_of_ne nofun⟩
  names := h.names.concat_of_ne nofun
  others := h.others_concat fun _ _ => rfl

end Concat

/-! ## Any number of pulls -/

/-- The tokens among the first items that are pulled. -/
def emitted (l : Lexer) (n : Nat) : List Token :=
  (List.range n).flatMap fun i => (l.stream i).toOption.toList

theorem emitted_succ (l : Lexer) (n : Nat) :
    l.emitted (n + 1) = l.emitted n ++ (l.stream n).toOption.toList := by
  simp [emitted, List.range_succ]

/-- One pull records its token, if there is one. -/
theorem Recorded.pull {source read : List Char} {tokens : List Token} {l l' : Lexer} {item : Item}
    (h : Recorded source tokens l.tables) (hreached : Reached source read l)
    (hpull : l.Pull item l') : Recorded source (tokens ++ item.toOption.toList) l'.tables := by
  cases hpull with
  | halted => simpa [Except.toOption] using h
  | finished | finish => exact h.concat_endAt _
  | lexeme _ hsplits hread =>
    have hreadable := Lexeme.isReadable_of_read hsplits.stops hread
    exact h.concat hreadable.wellFormed rfl rfl (hreached.slice_eq (takes_lexeme hsplits hread))
  | fault => simpa [Except.toOption] using h

theorem recorded_emitted (source : String) (n : Nat) :
    Recorded source.toList ((ofString source).emitted n) ((ofString source).after n).tables := by
  induction n with
  | zero => exact recorded_nil _
  | succ n ih =>
    obtain ⟨read, hreached⟩ := exists_reached source n
    rw [emitted_succ, after_succ]
    exact ih.pull hreached (pull_next _)

/-- After any number of pulls, also beyond the end of the text or an error, the tables record just
the tokens that have been pulled. An error adds nothing to them, and what they hold stays. -/
theorem recorded_after (source : String) (n : Nat) :
    Recorded source.toList ((ofString source).emitted n) ((ofString source).after n).tables ∧
      (∀ error, (ofString source).stream n = .error error →
        ((ofString source).after (n + 1)).tables = ((ofString source).after n).tables) ∧
      ∀ m, ((ofString source).after (n + m)).tables.Extends
        ((ofString source).after n).tables := by
  refine ⟨recorded_emitted source n, ?_, ?_⟩
  · intro error herror
    have hnext := (ofString source).next_after n
    rw [herror] at hnext
    exact tables_of_error hnext
  · intro m
    rw [after_add]
    exact extends_after _ m

end BlockLang.Lexer
