-- SUMMARY: A listing has one line for each token, and tells all about the tokens but their columns.
import BlockLang.Proofs.Check.Verdict
import BlockLang.Proofs.Lexer.Payloads
import BlockLang.Proofs.Text.Quoted
import Mathlib.Data.List.Nodup

namespace BlockLang

/-!
# Listings

A line of a listing shows the line number of a token, its kind and its payload, but not its index.
From the line all three are found again, since the name of a kind has no space in it and is that of no
other kind. The indices then follow from the payloads. So two texts with the same listing have the
same tokens, up to columns (`Listing.details`): `CommandLine.run_tokens_faithful`.
-/

/-! ## Names of kinds -/

namespace Token.Kind

/-- All kinds but those of unknown characters. -/
def fixed : List Kind :=
  Keyword.all.map keyword ++ Punctuation.all.map mark ++
    [identifier, numeral, stringLiteral, character, endOfInput]

theorem mem_fixed (kind : Kind) : kind ∈ fixed ∨ ∃ c, kind = unknown c := by
  cases kind <;> simp [fixed, Keyword.mem_all, Punctuation.mem_all]

theorem nodup_fixed_names : (fixed.map name).Nodup := by decide +kernel

theorem isAlpha_of_mem_fixed {kind : Kind} (h : kind ∈ fixed) :
    ∀ c ∈ kind.name.toList, c.isAlpha := by
  have hall : ∀ kind ∈ fixed, ∀ c ∈ kind.name.toList, c.isAlpha := by decide +kernel
  exact hall kind h

theorem toList_name_unknown (c : Char) :
    (unknown c).name.toList = "Unknown(".toList ++ (Text.quoted '\'' [c] ++ [')']) := by
  simp [name, Text.quotedChar]

theorem name_unknown_ne {kind : Kind} (h : kind ∈ fixed) (c : Char) :
    kind.name ≠ (unknown c).name := by
  intro hsame
  have hparenthesis : '(' ∈ kind.name.toList := by
    rw [hsame, toList_name_unknown]
    exact List.mem_append_left _ (by decide)
  cases isAlpha_of_mem_fixed h _ hparenthesis

/-- No two kinds have the same name. -/
theorem name_injective {kind kind' : Kind} (h : kind.name = kind'.name) : kind = kind' := by
  rcases mem_fixed kind with hkind | ⟨c, rfl⟩ <;> rcases mem_fixed kind' with hkind' | ⟨c', rfl⟩
  · exact List.inj_on_of_nodup_map nodup_fixed_names hkind hkind' h
  · exact absurd h (name_unknown_ne hkind c')
  · exact absurd h.symm (name_unknown_ne hkind' c)
  · have hlists := congrArg String.toList h
    rw [toList_name_unknown, toList_name_unknown] at hlists
    have hquoted := List.append_cancel_right (List.append_cancel_left hlists)
    rw [(List.cons.inj (Text.quoted_injective (by decide) hquoted)).1]

/-- The name of a kind does not break a line. -/
theorem unbroken_name (kind : Kind) : Text.Unbroken kind.name.toList := by
  rcases mem_fixed kind with hkind | ⟨c, rfl⟩
  · intro c hc
    have halpha := isAlpha_of_mem_fixed hkind c hc
    rw [Text.isAlpha_eq_contains] at halpha
    exact Text.Ranges.not_contains_of_apart (by decide) halpha
  · rw [toList_name_unknown, Text.unbroken_append, Text.unbroken_append]
    exact ⟨by decide, Text.unbroken_quoted (by decide) _, by decide⟩

/-- The name of a kind is one word, if the kind is not that of a space. -/
theorem ne_space_of_mem_name {kind : Kind} (h : kind ≠ unknown ' ') :
    ∀ c ∈ kind.name.toList, c != ' ' := by
  rcases mem_fixed kind with hkind | ⟨c, rfl⟩
  · intro c hc
    rw [bne_iff_ne]
    rintro rfl
    cases isAlpha_of_mem_fixed hkind _ hc
  · have hc : ' ' ≠ c := fun heq => h (heq ▸ rfl)
    have hquoted : ' ' ∉ Text.quoted '\'' [c] := by
      intro hspace
      rcases Text.mem_quoted (by decide) hspace with hquote | hescape | ⟨hmem, -⟩
      · cases hquote
      · exact absurd hescape (by decide)
      · exact hc (List.mem_singleton.1 hmem)
    intro d hd
    rw [toList_name_unknown, List.mem_append, List.mem_append] at hd
    rw [bne_iff_ne]
    rintro rfl
    rcases hd with hfront | hinside | hclose
    · exact absurd hfront (by decide)
    · exact hquoted hinside
    · exact absurd hclose (by decide)

end Token.Kind

/-! ## Payloads as text -/

theorem toString_nat_injective {m n : Nat} (h : toString m = toString n) : m = n := by
  have hdigits : Nat.toDigits 10 m = Nat.toDigits 10 n := String.ofList_injective h
  calc
    m = Nat.ofDigitChars 10 (Nat.toDigits 10 m) 0 := Nat.ofDigitChars_ten_toDigits.symm
    _ = Nat.ofDigitChars 10 (Nat.toDigits 10 n) 0 := by rw [hdigits]
    _ = n := Nat.ofDigitChars_ten_toDigits

namespace Payload

/-- The kind of the tokens that have a payload. -/
def kind : Payload → Token.Kind
  | name _ => .identifier
  | value _ => .numeral
  | contents _ => .stringLiteral
  | character _ => .character

/-- A payload as it stands in a line. -/
def text : Payload → String
  | name text => text
  | value n => toString n
  | contents text => Text.quotedString text
  | character c => Text.quotedChar c

/-- Among the payloads of one kind, the text tells which one it is. -/
theorem text_injective {p p' : Payload} (hkind : p.kind = p'.kind) (htext : p.text = p'.text) :
    p = p' := by
  cases p with
  | name text =>
    cases p' with
    | name text' => exact congrArg name htext
    | _ => cases hkind
  | value n =>
    cases p' with
    | value n' => exact congrArg value (toString_nat_injective htext)
    | _ => cases hkind
  | contents text =>
    cases p' with
    | contents text' => exact congrArg contents (Text.quotedString_injective htext)
    | _ => cases hkind
  | character c =>
    cases p' with
    | character c' => exact congrArg character (Text.quotedChar_injective htext)
    | _ => cases hkind

end Payload

theorem Tables.kind_of_payload? {t : Tables} {token : Token} {p : Payload}
    (h : t.payload? token = some p) : p.kind = token.kind := by
  obtain ⟨index, -, h⟩ := Option.bind_eq_some_iff.1 h
  split at h
  case h_5 | h_6 | h_7 | h_8 => cases h
  all_goals
    next hkind =>
      obtain ⟨_, -, rfl⟩ := Option.map_eq_some_iff.1 h
      rw [hkind]
      rfl

namespace Listing

theorem text_ofToken (t : Tables) (token : Token) :
    (Row.ofToken t token).text = (t.payload? token).map Payload.text := by
  obtain ⟨kind, index, span⟩ := token
  cases index with
  | none => rfl
  | some index =>
    cases kind with
    | identifier =>
      have hname : Payload.text ∘ Payload.name = id := rfl
      simp [Row.ofToken, payload?, Tables.payload?, hname]
    | numeral => exact (Option.map_map Payload.text .value _).symm
    | stringLiteral => exact (Option.map_map Payload.text .contents _).symm
    | character => exact (Option.map_map Payload.text .character _).symm
    | keyword | mark | endOfInput | unknown => rfl

/-! ## Lines -/

/-- What stands behind the kind in a line. -/
def textPart : Option String → List Char
  | some text => ' ' :: text.toList
  | none => []

theorem toList_toLine (r : Row) :
    r.toLine.toList = (List.replicate (4 - (Nat.toDigits 10 r.line).length) ' ' ++
      (Nat.toDigits 10 r.line ++ ' ' :: ' ' :: (r.kind.toList ++ textPart r.text))) := by
  obtain ⟨line, kind, index, text⟩ := r
  cases text <;> simp [Row.toLine, lineNumber, textPart, List.leftpad]

theorem textPart_injective {text text' : Option String} (h : textPart text = textPart text') :
    text = text' := by
  cases text with
  | none =>
    cases text' with
    | none => rfl
    | some text' => cases h
  | some text =>
    cases text' with
    | none => cases h
    | some text' => rw [String.toList_inj.1 (List.cons.inj h).2]

theorem isDigit_of_mem_toDigits {n : Nat} : ∀ c ∈ Nat.toDigits 10 n, c.isDigit :=
  fun _ hc => Nat.isDigit_of_mem_toDigits (by decide) (by decide) hc

/-- Behind the spaces in front of it, a number begins with a digit. -/
theorem head?_toDigits_append (n : Nat) (rest : List Char) :
    ∀ c ∈ (Nat.toDigits 10 n ++ rest).head?, (c == ' ') = false := by
  obtain ⟨d, digits, hdigits⟩ := List.exists_cons_of_ne_nil (Nat.toDigits_ne_nil (n := n) (b := 10))
  rw [hdigits]
  rintro _ ⟨⟩
  rw [beq_eq_false_iff_ne]
  rintro rfl
  cases isDigit_of_mem_toDigits ' ' (hdigits ▸ List.mem_cons_self)

theorem head?_textPart (text : Option String) : ∀ c ∈ (textPart text).head?, (c != ' ') = false := by
  cases text with
  | none => nofun
  | some text =>
    rintro _ ⟨⟩
    rfl

/-- If the names of kinds are words, a line tells its row but for the index. -/
theorem toLine_injective {r r' : Row} (hkind : ∀ c ∈ r.kind.toList, c != ' ')
    (hkind' : ∀ c ∈ r'.kind.toList, c != ' ') (h : r.toLine = r'.toLine) :
    r.line = r'.line ∧ r.kind = r'.kind ∧ r.text = r'.text := by
  have hspaces : ∀ n, ∀ c ∈ List.replicate n ' ', c == ' ' := fun n c hc => by
    rw [List.eq_of_mem_replicate hc]
    rfl
  have hgap : ∀ text : List Char, ∀ c ∈ (' ' :: text).head?, c.isDigit = false := by
    rintro _ _ ⟨⟩
    rfl
  have hlists := congrArg String.toList h
  rw [toList_toLine, toList_toLine] at hlists
  obtain ⟨-, hbehindSpaces⟩ := Text.append_inj_of_runs (hspaces _) (hspaces _)
    (head?_toDigits_append _ _) (head?_toDigits_append _ _) hlists
  obtain ⟨hdigits, hbehindNumber⟩ := Text.append_inj_of_runs isDigit_of_mem_toDigits
    isDigit_of_mem_toDigits (hgap _) (hgap _) hbehindSpaces
  have hbehindGap := (List.cons.inj (List.cons.inj hbehindNumber).2).2
  obtain ⟨hname, htext⟩ := Text.append_inj_of_runs hkind hkind' (head?_textPart _)
    (head?_textPart _) hbehindGap
  exact ⟨toString_nat_injective (congrArg String.ofList hdigits), String.toList_inj.1 hname,
    textPart_injective htext⟩

/-! ## Details -/

/-- What a listing is about: a token with its payload, and without its columns. -/
structure Details where
  line : Nat
  kind : Token.Kind
  index : Option Nat
  payload : Option Payload
deriving DecidableEq, Repr

namespace Details

def ofToken (t : Tables) (token : Token) : Details where
  line := token.span.line
  kind := token.kind
  index := token.index
  payload := t.payload? token

def row (d : Details) : Row where
  line := d.line
  kind := d.kind.name
  index := d.index
  text := d.payload.map Payload.text

theorem row_ofToken (t : Tables) (token : Token) : (ofToken t token).row = Row.ofToken t token :=
  congrArg (Row.mk _ _ _) (text_ofToken t token).symm

/-- Details as a token of a text can have them. -/
structure Valid (d : Details) : Prop where
  kind_ne : d.kind ≠ .unknown ' '
  kind_payload : ∀ p ∈ d.payload, p.kind = d.kind
  unbroken : ∀ p ∈ d.payload, Text.Unbroken p.text.toList

end Details

/-- The details of the tokens that can be read. -/
def details (drained : Lexer.Drained) : List Details :=
  drained.tokens.map (Details.ofToken drained.lexer.tables)

theorem rows_eq (drained : Lexer.Drained) : rows drained = (details drained).map Details.row := by
  rw [rows, details, List.map_map]
  exact List.map_congr_left fun token _ => (Details.row_ofToken _ token).symm

/-- No part of a word breaks a line. -/
theorem not_break_of_isWordPart {c : Char} (h : Lexeme.isWordPart c) :
    Text.breakRanges.contains c = false := by
  rw [Bool.eq_false_iff]
  intro hbreak
  have halphabetic := Text.isAlphabetic_of_apart (by decide) (by decide +kernel) hbreak
  have hdigit : c.isDigit = false := by
    rw [Text.isDigit_eq_contains]
    exact Text.Ranges.not_contains_of_apart (by decide) hbreak
  have hunderscore : c ≠ '_' := by
    rintro rfl
    cases hbreak
  simp [Lexeme.isWordPart, halphabetic, hdigit, hunderscore] at h

theorem not_break_of_isDigit {c : Char} (h : c.isDigit) : Text.breakRanges.contains c = false :=
  not_break_of_isWordPart (by simp [Lexeme.isWordPart, h])

theorem unbroken_payload {lexeme : Lexeme} (h : lexeme.WellFormed) :
    ∀ p ∈ lexeme.payload?, Text.Unbroken p.text.toList := by
  cases lexeme with
  | identifier name =>
    rintro _ ⟨⟩ c hc
    exact not_break_of_isWordPart (Lexeme.isWordPart_of_mem h.1 hc)
  | numeral digits =>
    have htext : (toString (Lexeme.numeralValue digits.toList)).toList =
        Nat.toDigits 10 (Lexeme.numeralValue digits.toList) := Nat.toList_repr
    rintro _ ⟨⟩ c hc
    exact not_break_of_isDigit (isDigit_of_mem_toDigits c (htext ▸ hc))
  | stringLiteral contents =>
    rintro _ ⟨⟩
    rw [Payload.text, Text.quotedString, String.toList_ofList]
    exact Text.unbroken_quoted (by decide) _
  | character c =>
    rintro _ ⟨⟩
    rw [Payload.text, Text.quotedChar, String.toList_ofList]
    exact Text.unbroken_quoted (by decide) _
  | keyword | mark | unknown => nofun

/-- The tokens of a text have valid details. -/
theorem valid_ofToken {t : Tables} {token : Token} (h : Lexer.Explained t token) :
    (Details.ofToken t token).Valid where
  kind_ne := by
    intro hspace
    cases h with
    | @lexeme lexeme hlexeme hstands =>
      have hkind : lexeme.kind = .unknown ' ' := hstands.kind.symm.trans hspace
      cases lexeme with
      | unknown c =>
        cases hkind
        cases hlexeme.1
      | _ => cases hkind
    | finish hkind => cases hkind.symm.trans hspace
  kind_payload := fun _ hp => Tables.kind_of_payload? hp
  unbroken := by
    cases h with
    | lexeme hlexeme hstands =>
      change ∀ p ∈ t.payload? token, _
      rw [hstands.payload?_eq]
      exact unbroken_payload hlexeme
    | finish _ hindex =>
      change ∀ p ∈ t.payload? token, _
      rw [Lexer.payload?_of_index_eq_none t hindex]
      nofun

def Details.forgetIndex (d : Details) : Details := { d with index := none }

/-- Of two payloads that fit the same kind, the text tells whether they are the same. -/
theorem payload_eq_of_text_eq {kind : Token.Kind} {payload payload' : Option Payload}
    (h : ∀ p ∈ payload, p.kind = kind) (h' : ∀ p ∈ payload', p.kind = kind)
    (htext : payload.map Payload.text = payload'.map Payload.text) : payload = payload' := by
  cases payload with
  | none => exact (Option.map_eq_none_iff.1 htext.symm).symm
  | some p =>
    obtain ⟨p', rfl, hsame⟩ := Option.map_eq_some_iff.1 htext.symm
    rw [Payload.text_injective ((h p rfl).trans (h' p' rfl).symm) hsame.symm]

/-- A line tells all details but the index. -/
theorem forgetIndex_eq_of_toLine_eq {d d' : Details} (h : d.Valid) (h' : d'.Valid)
    (hsame : d.row.toLine = d'.row.toLine) : d.forgetIndex = d'.forgetIndex := by
  have hword : ∀ c ∈ d.row.kind.toList, c != ' ' := Token.Kind.ne_space_of_mem_name h.kind_ne
  have hword' : ∀ c ∈ d'.row.kind.toList, c != ' ' := Token.Kind.ne_space_of_mem_name h'.kind_ne
  obtain ⟨hnumber, hname, htext⟩ := toLine_injective hword hword' hsame
  have hline : d.line = d'.line := hnumber
  have hkind : d.kind = d'.kind := Token.Kind.name_injective hname
  have hpayload := payload_eq_of_text_eq h.kind_payload (hkind ▸ h'.kind_payload) htext
  rw [Details.forgetIndex, Details.forgetIndex, hline, hkind, hpayload]

theorem unbroken_toLine {d : Details} (h : d.Valid) : Text.Unbroken d.row.toLine.toList := by
  have hspaces : ∀ n, Text.Unbroken (List.replicate n ' ') := fun n c hc => by
    rw [List.eq_of_mem_replicate hc]
    rfl
  have hdigits : Text.Unbroken (Nat.toDigits 10 d.row.line) :=
    fun c hc => not_break_of_isDigit (isDigit_of_mem_toDigits c hc)
  have htext : Text.Unbroken (textPart d.row.text) := by
    change Text.Unbroken (textPart (d.payload.map Payload.text))
    cases hpayload : d.payload with
    | none => exact List.forall_mem_nil _
    | some p => exact List.forall_mem_cons.2 ⟨rfl, h.unbroken p hpayload⟩
  rw [toList_toLine, Text.unbroken_append, Text.unbroken_append]
  exact ⟨hspaces _, hdigits, (Text.unbroken_append (s := [' ', ' '])).2 ⟨hspaces 2,
    Text.unbroken_append.2 ⟨d.kind.unbroken_name, htext⟩⟩⟩

/-! ## Listings -/

/-- The payloads of the tokens tell their indices. -/
theorem index_details (source : String) :
    (details (Lexer.ofString source).drain).map Details.index =
      Tables.indices {} ((details (Lexer.ofString source).drain).map Details.payload) := by
  rw [details, List.map_map, List.map_map]
  exact (Lexer.explained_drain (Lexer.inverse_ofString source)).2

theorem valid_details (source : String) : ∀ d ∈ details (Lexer.ofString source).drain, d.Valid := by
  intro d hd
  obtain ⟨token, htoken, rfl⟩ := List.mem_map.1 hd
  exact valid_ofToken ((Lexer.explained_drain (Lexer.inverse_ofString source)).1 token htoken)

/-- Where the lines of two rows of details are the same, so is all but the indices. -/
theorem map_forgetIndex_eq {ds ds' : List Details} (h : ∀ d ∈ ds, d.Valid) (h' : ∀ d ∈ ds', d.Valid)
    (hlines : ds.map (·.row.toLine) = ds'.map (·.row.toLine)) :
    ds.map Details.forgetIndex = ds'.map Details.forgetIndex := by
  induction ds generalizing ds' with
  | nil => rw [List.map_eq_nil_iff.1 hlines.symm]
  | cons d ds ih =>
    obtain ⟨d', ds', rfl, hfirst, hothers⟩ := List.map_eq_cons_iff.1 hlines.symm
    obtain ⟨hd, hds⟩ := List.forall_mem_cons.1 h
    obtain ⟨hd', hds'⟩ := List.forall_mem_cons.1 h'
    rw [List.map_cons, List.map_cons, forgetIndex_eq_of_toLine_eq hd hd' hfirst.symm,
      ih hds hds' hothers.symm]

/-- Details are put together again from the indices and the rest. -/
theorem eq_of_map_forgetIndex_eq {ds ds' : List Details}
    (h : ds.map Details.forgetIndex = ds'.map Details.forgetIndex)
    (hindices : ds.map Details.index = ds'.map Details.index) : ds = ds' := by
  have hrestore : ∀ ds : List Details, List.zipWith (fun d index => { d with index := index })
      (ds.map Details.forgetIndex) (ds.map Details.index) = ds := by
    intro ds
    induction ds with
    | nil => rfl
    | cons d ds ih => exact congrArg (d :: ·) ih
  rw [← hrestore ds, h, hindices, hrestore]

theorem unbroken_lines (source : String) :
    ∀ line ∈ (rows (Lexer.ofString source).drain).map Row.toLine, Text.Unbroken line.toList := by
  intro line hline
  rw [rows_eq, List.map_map] at hline
  obtain ⟨d, hd, rfl⟩ := List.mem_map.1 hline
  exact unbroken_toLine (valid_details source d hd)

/-- Texts that are listed alike have the same details. -/
theorem details_eq_of_toText_eq {source source' : String}
    (h : toText (rows (Lexer.ofString source).drain) =
      toText (rows (Lexer.ofString source').drain)) :
    details (Lexer.ofString source).drain = details (Lexer.ofString source').drain := by
  have hlines := Text.unlines_injective (unbroken_lines source) (unbroken_lines source') h
  rw [rows_eq, rows_eq, List.map_map, List.map_map] at hlines
  have hforget := map_forgetIndex_eq (valid_details source) (valid_details source') hlines
  have hpayloads : (details (Lexer.ofString source).drain).map Details.payload =
      (details (Lexer.ofString source').drain).map Details.payload := by
    have hsame := congrArg (List.map Details.payload) hforget
    rw [List.map_map, List.map_map] at hsame
    exact hsame
  apply eq_of_map_forgetIndex_eq hforget
  rw [index_details, index_details, hpayloads]

/-- Just the tokens that are told apart by more than their kind have a payload. -/
theorem isSome_payload?_iff {t : Tables} {token : Token} (h : Lexer.Explained t token) :
    (t.payload? token).isSome ↔ token.kind = .identifier ∨ token.kind.isLiteral := by
  cases h with
  | @lexeme lexeme _ hstands =>
    rw [hstands.payload?_eq, hstands.kind]
    cases lexeme <;> simp [Lexeme.payload?, Lexeme.kind, Token.Kind.isLiteral]
  | finish hkind hindex =>
    rw [Lexer.payload?_of_index_eq_none t hindex, hkind]
    simp [Token.Kind.isLiteral]

end Listing

namespace CommandLine

open Listing (details)

/-- What is printed of a text that can be read is its listing, whether or not it has an error. -/
theorem stdout_run_tokens {files : Files} {input source : String}
    (h : readInput files input = .ok source) :
    (Request.run files (.tokens input false)).stdout =
      Listing.toText (Listing.rows (Lexer.ofString source).drain) := by
  have hrun : Request.run files (.tokens input false) = listTokens input source false := by
    rw [Request.run, h]
    rfl
  rw [hrun, listTokens]
  split <;> rfl

/-- A listing has one line for each token, whatever the token stands for. Texts are listed alike just
if their tokens have the same lines, kinds, indices and payloads. -/
theorem run_tokens_faithful (files files' : Files) (input input' : String) {source source' : String}
    (hsource : readInput files input = .ok source)
    (hsource' : readInput files' input' = .ok source') :
    (∃ lines, (Request.run files (.tokens input false)).stdout = Text.unlines lines ∧
      lines.length = (Lexer.ofString source).drain.tokens.length ∧
      ∀ line ∈ lines, Text.Unbroken line.toList) ∧
    (∀ token ∈ (Lexer.ofString source).drain.tokens,
      ((Lexer.ofString source).drain.lexer.tables.payload? token).isSome ↔
        token.kind = .identifier ∨ token.kind.isLiteral) ∧
    ((Request.run files (.tokens input false)).stdout =
        (Request.run files' (.tokens input' false)).stdout ↔
      details (Lexer.ofString source).drain = details (Lexer.ofString source').drain) := by
  rw [stdout_run_tokens hsource, stdout_run_tokens hsource']
  refine ⟨⟨_, rfl, ?length, Listing.unbroken_lines source⟩, ?payloads, ?details⟩
  case length => rw [List.length_map, Listing.rows, List.length_map]
  case payloads =>
    intro token htoken
    exact Listing.isSome_payload?_iff ((Lexer.explained_drain (Lexer.inverse_ofString source)).1 token htoken)
  case details =>
    refine ⟨Listing.details_eq_of_toText_eq, fun hdetails => ?_⟩
    rw [Listing.rows_eq, Listing.rows_eq, hdetails]

/-- Blanks and needless zeros are lost, and line feeds inside a literal are not. -/
theorem run_tokens_faithful_columns :
    ∃ files : Files, readInput files "f" = .ok "x 12 \"a\nb\" ?" ∧
      readInput files "g" = .ok "x   012 \"a\nb\"?" ∧
      (∃ lines, (Request.run files (.tokens "f" false)).stdout = Text.unlines lines ∧
        lines.length = 5 ∧ ∀ line ∈ lines, Text.Unbroken line.toList) ∧
      (Request.run files (.tokens "f" false)).stdout =
        (Request.run files (.tokens "g" false)).stdout := by
  let files : Files := fun path =>
    .bytes (if path = "f" then "x 12 \"a\nb\" ?" else "x   012 \"a\nb\"?").toUTF8
  have hsource : readInput files "f" = .ok "x 12 \"a\nb\" ?" := readInput_toUTF8 rfl
  have hsource' : readInput files "g" = .ok "x   012 \"a\nb\"?" := readInput_toUTF8 rfl
  have htokens : (Lexer.ofString "x 12 \"a\nb\" ?").drain.tokens.length = 5 := by decide +kernel
  have hdetails : details (Lexer.ofString "x 12 \"a\nb\" ?").drain =
      details (Lexer.ofString "x   012 \"a\nb\"?").drain := by decide +kernel
  have hlisting := run_tokens_faithful files files "f" "g" hsource hsource'
  rw [htokens] at hlisting
  exact ⟨files, hsource, hsource', hlisting.1, hlisting.2.2.2 hdetails⟩

end CommandLine

end BlockLang
