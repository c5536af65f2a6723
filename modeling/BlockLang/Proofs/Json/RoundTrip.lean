-- SUMMARY: A value that is written as a document is read back from it.
import BlockLang.Json.Print
import BlockLang.Json.Read
import BlockLang.Proofs.Json.Number
import BlockLang.Proofs.Json.Text

namespace BlockLang.Json

/-!
# Values and documents

A value is written as a row of tokens with spaces between them (`Value.tokens`). Splitting the
document gives this row back, whatever the layout, and reading the row gives the value: `read?_write`.
-/

/-! ## Splitting a document from the front -/

theorem tokens?_eq (text : List Char) :
    tokens? text =
      if text.dropWhile isSpace = [] then some []
      else (scanToken (text.dropWhile isSpace)).bind fun (token, rest) =>
        (tokens? rest).map (token :: ·) := by
  rw [tokens?]
  split
  · rfl
  · split
    · next hscan => rw [hscan, Option.bind_none]
    · next hscan => rw [hscan, Option.bind_some]

theorem tokens?_nil : tokens? [] = some [] := by
  rw [tokens?_eq, List.dropWhile_nil, if_pos rfl]

/-- Spaces are skipped. -/
theorem tokens?_spaces {spaces : List Char} (h : ∀ c ∈ spaces, isSpace c) (text : List Char) :
    tokens? (spaces ++ text) = tokens? text := by
  rw [tokens?_eq, tokens?_eq text, List.dropWhile_append_of_pos h]

theorem tokens?_of_scanToken {c : Char} {text rest : List Char} {token : Token}
    (hc : isSpace c = false) (h : scanToken (c :: text) = some (token, rest)) :
    tokens? (c :: text) = (tokens? rest).map (token :: ·) := by
  have hdrop : (c :: text).dropWhile isSpace = c :: text := by simp [hc]
  rw [tokens?_eq, hdrop, if_neg (List.cons_ne_nil _ _), h, Option.bind_some]

theorem tokens?_punctuation {c : Char} {token : Token} (h : punctuation? c = some token)
    (text : List Char) : tokens? (c :: text) = (tokens? text).map (token :: ·) := by
  apply tokens?_of_scanToken
  · rw [Bool.eq_false_iff]
    intro hspace
    simp only [isSpace, Bool.or_eq_true, beq_iff_eq] at hspace
    rcases hspace with ((rfl | rfl) | rfl) | rfl <;> cases h
  · simp [scanToken, h]

theorem tokens?_writeString (text : Option String) (rest : List Char) :
    tokens? (writeString text ++ rest) = (tokens? rest).map (.string text :: ·) := by
  obtain ⟨parts, body, hwrite, hscan, htext⟩ := scanString_writeString text rest
  rw [hwrite]
  apply tokens?_of_scanToken rfl
  have hquote : punctuation? '"' = none := rfl
  simp [scanToken, hquote, hscan, htext]

theorem tokens?_name {name : List Char} {token : Token} (h : (name, token) ∈ names)
    (rest : List Char) : tokens? (name ++ rest) = (tokens? rest).map (token :: ·) := by
  simp only [names, List.mem_cons, Prod.mk.injEq, List.not_mem_nil, or_false] at h
  rcases h with ⟨rfl, rfl⟩ | ⟨rfl, rfl⟩ | ⟨rfl, rfl⟩ <;> exact tokens?_of_scanToken rfl rfl

/-- A character that a number begins with begins no other token. -/
theorem opens_number {c : Char} (hc : c.isDigit ∨ c = '-') :
    isSpace c = false ∧ punctuation? c = none ∧ c ≠ '"' ∧ c.isAlpha = false := by
  cases hc with
  | inl hdigit =>
    have hne : ∀ d : Char, d.isDigit = false → c ≠ d := by
      rintro d hd rfl
      rw [hd] at hdigit
      cases hdigit
    refine ⟨?_, ?_, hne _ rfl, ?_⟩
    · simp [isSpace, hne]
    · simp [punctuation?, hne]
    · rw [Text.isDigit_eq_contains] at hdigit
      rw [Text.isAlpha_eq_contains]
      exact Text.Ranges.not_contains_of_apart (by decide) hdigit
  | inr hminus =>
    rw [hminus]
    exact ⟨rfl, rfl, by decide, rfl⟩

/-- A number that nothing goes on with is one token. -/
theorem tokens?_number {literal : String} (h : IsNumber literal) {rest : List Char}
    (hrest : Stops rest) :
    tokens? (literal.toList ++ rest) = (tokens? rest).map (.number literal :: ·) := by
  obtain ⟨c, hfirst, hc⟩ := h.first
  obtain ⟨text, hliteral⟩ := List.head?_eq_some_iff.1 hfirst
  have hscan := Scanner.number_settles.append h fun _ => hrest
  rw [List.nil_append, hliteral, List.cons_append] at hscan
  rw [hliteral, List.cons_append]
  obtain ⟨hspace, hpunctuation, hquote, halpha⟩ := opens_number hc
  apply tokens?_of_scanToken hspace
  simp [scanToken, hpunctuation, hquote, halpha, hscan, ← hliteral]

/-! ## The tokens of a value -/

mutual

def Value.tokens : Value → List Token
  | .null => [.null]
  | .bool b => [.bool b]
  | .number literal => [.number literal]
  | .string text => [.string text]
  | .array [] => [.openBracket, .closeBracket]
  | .array (item :: items) => .openBracket :: item.tokens ++ itemTokens items ++ [.closeBracket]
  | .object [] => [.openBrace, .closeBrace]
  | .object ((key, value) :: members) =>
    .openBrace :: .string key :: .colon :: value.tokens ++ memberTokens members ++ [.closeBrace]

/-- The tokens of the items after the first. -/
def itemTokens : List Value → List Token
  | [] => []
  | item :: items => .comma :: item.tokens ++ itemTokens items

/-- The tokens of the members after the first. -/
def memberTokens : List Member → List Token
  | [] => []
  | (key, value) :: members =>
    .comma :: .string key :: .colon :: value.tokens ++ memberTokens members

end

/-- What holds of an array or object if it holds of its parts holds of all values. -/
@[elab_as_elim]
theorem Value.induct {P : Value → Prop} (null : P .null) (bool : ∀ b, P (.bool b))
    (number : ∀ literal, P (.number literal)) (string : ∀ text, P (.string text))
    (array : ∀ items, (∀ item ∈ items, P item) → P (.array items))
    (object : ∀ members, (∀ member ∈ members, P member.2) → P (.object members)) (v : Value) :
    P v :=
  @Value.rec P (fun items => ∀ item ∈ items, P item) (fun members => ∀ member ∈ members, P member.2)
    (fun member => P member.2) null bool number string array object nofun
    (fun _ _ hitem hitems => List.forall_mem_cons.2 ⟨hitem, hitems⟩) nofun
    (fun _ _ hmember hmembers => List.forall_mem_cons.2 ⟨hmember, hmembers⟩) (fun _ _ h => h) v

/-- Each number in a value is one. -/
inductive Value.WellFormed : Value → Prop where
  | null : WellFormed .null
  | bool (b : Bool) : WellFormed (.bool b)
  | number {literal : String} : IsNumber literal → WellFormed (.number literal)
  | string (text : Option String) : WellFormed (.string text)
  | array {items : List Value} : (∀ item ∈ items, item.WellFormed) → WellFormed (.array items)
  | object {members : List Member} :
    (∀ member ∈ members, member.2.WellFormed) → WellFormed (.object members)

/-- A layout puts nothing but spaces between the tokens. -/
structure Layout.IsSpaced (layout : Layout) : Prop where
  separation : ∀ depth, ∀ c ∈ layout.separation depth, isSpace c
  colon : ∃ before after, layout.colon = before ++ ':' :: after ∧ (∀ c ∈ before, isSpace c) ∧
    ∀ c ∈ after, isSpace c

theorem Layout.compact_isSpaced : Layout.compact.IsSpaced where
  separation _ := nofun
  colon := ⟨[], [], rfl, nofun, nofun⟩

theorem Layout.pretty_isSpaced : Layout.pretty.IsSpaced where
  separation := by
    intro depth c hc
    cases hc with
    | head => rfl
    | tail _ hc => rw [List.eq_of_mem_replicate hc]; rfl
  colon := ⟨[], [' '], rfl, nofun, by decide⟩

/-! ## Splitting what is written -/

section Splitting

variable {layout : Layout}

theorem stops_writeItems (layout : Layout) (depth : Nat) (items : List Value)
    {rest : List Char} (h : Stops rest) : Stops (writeItems layout depth items ++ rest) := by
  cases items with
  | nil => exact h
  | cons item items => exact stops_cons rfl _

theorem stops_writeMembers (layout : Layout) (depth : Nat) (members : List Member)
    {rest : List Char} (h : Stops rest) : Stops (writeMembers layout depth members ++ rest) := by
  cases members with
  | nil => exact h
  | cons member members => exact stops_cons rfl _

namespace Layout.IsSpaced

variable (hlayout : layout.IsSpaced)
include hlayout

theorem tokens?_separation (depth : Nat) (text : List Char) :
    tokens? (layout.separation depth ++ text) = tokens? text :=
  tokens?_spaces (hlayout.separation depth) text

theorem tokens?_colon (text : List Char) :
    tokens? (layout.colon ++ text) = (tokens? text).map (.colon :: ·) := by
  obtain ⟨before, after, hcolon, hbefore, hafter⟩ := hlayout.colon
  rw [hcolon, List.append_assoc, tokens?_spaces hbefore, List.cons_append,
    tokens?_punctuation rfl, tokens?_spaces hafter]

/-- What comes behind the last part of an array or object does not go on with a number. -/
theorem stops_close (depth : Nat) {c : Char} (hc : isNumberPart c = false) (rest : List Char) :
    Stops (layout.separation depth ++ c :: rest) :=
  (stops_spaces (hlayout.separation depth)).append (stops_cons hc rest)

end Layout.IsSpaced

/-- Splitting a document that begins with `v` gives the tokens of `v` first. -/
def SplitsAs (layout : Layout) (v : Value) : Prop :=
  ∀ depth rest, Stops rest →
    tokens? (write layout depth v ++ rest) = (tokens? rest).map (v.tokens ++ ·)

variable (hlayout : layout.IsSpaced)
include hlayout

theorem tokens?_writeItems (depth : Nat) {items : List Value}
    (h : ∀ item ∈ items, SplitsAs layout item) {rest : List Char} (hrest : Stops rest) :
    tokens? (writeItems layout depth items ++ rest) =
      (tokens? rest).map (itemTokens items ++ ·) := by
  induction items with
  | nil => exact Option.map_id'.symm
  | cons item items ih =>
    obtain ⟨hitem, hitems⟩ := List.forall_mem_cons.1 h
    have hcomma : punctuation? ',' = some .comma := rfl
    have hfollows := stops_writeItems layout depth items hrest
    simp only [writeItems, List.cons_append, List.append_assoc, tokens?_punctuation hcomma,
      hlayout.tokens?_separation, hitem depth _ hfollows, ih hitems, Option.map_map]
    simp [Function.comp_def, itemTokens]

theorem tokens?_writeMembers (depth : Nat) {members : List Member}
    (h : ∀ member ∈ members, SplitsAs layout member.2) {rest : List Char} (hrest : Stops rest) :
    tokens? (writeMembers layout depth members ++ rest) =
      (tokens? rest).map (memberTokens members ++ ·) := by
  induction members with
  | nil => exact Option.map_id'.symm
  | cons member members ih =>
    obtain ⟨hmember, hmembers⟩ := List.forall_mem_cons.1 h
    have hcomma : punctuation? ',' = some .comma := rfl
    have hfollows := stops_writeMembers layout depth members hrest
    simp only [writeMembers, List.cons_append, List.append_assoc, tokens?_punctuation hcomma,
      hlayout.tokens?_separation, tokens?_writeString, hlayout.tokens?_colon,
      hmember depth _ hfollows, ih hmembers, Option.map_map]
    simp [Function.comp_def, memberTokens]

/-- A value is written as its tokens, whatever stands behind it. -/
theorem Value.WellFormed.splitsAs {v : Value} (hv : v.WellFormed) : SplitsAs layout v := by
  induction hv with
  | null => exact fun _ rest _ => tokens?_name (by simp [names, write]) rest
  | bool b =>
    intro depth rest _
    have hname : (write layout depth (.bool b), Token.bool b) ∈ names := by
      cases b <;> simp [names, write]
    exact tokens?_name hname rest
  | number h => exact fun _ _ hrest => tokens?_number h hrest
  | string text => exact fun _ rest _ => tokens?_writeString text rest
  | @array items _ ih =>
    intro depth rest _
    have hopen : punctuation? '[' = some .openBracket := rfl
    have hclose : punctuation? ']' = some .closeBracket := rfl
    cases items with
    | nil =>
      simp [write, Value.tokens, tokens?_punctuation hopen, tokens?_punctuation hclose,
        Function.comp_def]
    | cons item items =>
      obtain ⟨hitem, hitems⟩ := List.forall_mem_cons.1 ih
      have hend : Stops (layout.separation depth ++ ']' :: rest) := hlayout.stops_close depth rfl rest
      have hfollows := stops_writeItems layout (depth + 1) items hend
      simp only [write, List.cons_append, List.nil_append, List.append_assoc,
        tokens?_punctuation hopen, hlayout.tokens?_separation, hitem _ _ hfollows,
        tokens?_writeItems hlayout _ hitems hend, tokens?_punctuation hclose, Option.map_map]
      simp [Function.comp_def, Value.tokens]
  | @object members _ ih =>
    intro depth rest _
    have hopen : punctuation? '{' = some .openBrace := rfl
    have hclose : punctuation? '}' = some .closeBrace := rfl
    cases members with
    | nil =>
      simp [write, Value.tokens, tokens?_punctuation hopen, tokens?_punctuation hclose,
        Function.comp_def]
    | cons member members =>
      obtain ⟨hmember, hmembers⟩ := List.forall_mem_cons.1 ih
      have hend : Stops (layout.separation depth ++ '}' :: rest) := hlayout.stops_close depth rfl rest
      have hfollows := stops_writeMembers layout (depth + 1) members hend
      simp only [write, List.cons_append, List.nil_append, List.append_assoc,
        tokens?_punctuation hopen, hlayout.tokens?_separation, tokens?_writeString,
        hlayout.tokens?_colon, hmember _ _ hfollows,
        tokens?_writeMembers hlayout _ hmembers hend, tokens?_punctuation hclose, Option.map_map]
      simp [Function.comp_def, Value.tokens]

end Splitting

/-! ## Reading the tokens of a value -/

namespace Reader

/-- A value is read at the front of an array as it is anywhere in it. -/
theorem foldlM_firstItem (frames : List Frame) (v : Value) :
    v.tokens.foldlM step ⟨frames, .firstItem⟩ =
      v.tokens.foldlM step ⟨.array [] :: frames, .value⟩ := by
  rcases v with _ | b | literal | text | ⟨_ | ⟨item, items⟩⟩ | ⟨_ | ⟨⟨key, value⟩, members⟩⟩ <;> rfl

/-- The tokens of `v` are read as `v`, inside any frames. -/
def Restores (v : Value) : Prop :=
  ∀ frames, v.tokens.foldlM step ⟨frames, .value⟩ = some ⟨frames, .continuation v⟩

/-- The reader that some tokens lead to goes on with the tokens behind them. -/
theorem foldlM_append_of_eq_some {tokens : List Token} {r r' : Reader}
    (h : tokens.foldlM step r = some r') (more : List Token) :
    (tokens ++ more).foldlM step r = more.foldlM step r' := by
  rw [List.foldlM_append, h, Option.bind_eq_bind, Option.bind_some]

theorem foldlM_itemTokens {items : List Value} (h : ∀ item ∈ items, Restores item)
    (frames : List Frame) (done : List Value) (last : Value) :
    (itemTokens items ++ [Token.closeBracket]).foldlM step
        ⟨.array done :: frames, .continuation last⟩ =
      some ⟨frames, .continuation (.array ((last :: done).reverse ++ items))⟩ := by
  induction items generalizing done last with
  | nil => rw [List.append_nil]; rfl
  | cons item items ih =>
    obtain ⟨hitem, hitems⟩ := List.forall_mem_cons.1 h
    have hrow : itemTokens (item :: items) ++ [Token.closeBracket] =
        [.comma] ++ (item.tokens ++ (itemTokens items ++ [.closeBracket])) := by simp [itemTokens]
    have hcomma : [Token.comma].foldlM step ⟨.array done :: frames, .continuation last⟩ =
        some ⟨.array (last :: done) :: frames, .value⟩ := rfl
    rw [hrow, foldlM_append_of_eq_some hcomma, foldlM_append_of_eq_some (hitem _), ih hitems]
    simp

theorem foldlM_memberTokens {members : List Member} (h : ∀ member ∈ members, Restores member.2)
    (frames : List Frame) (done : List Member) (key : Option String) (last : Value) :
    (memberTokens members ++ [Token.closeBrace]).foldlM step
        ⟨.object done key :: frames, .continuation last⟩ =
      some ⟨frames, .continuation (.object (((key, last) :: done).reverse ++ members))⟩ := by
  induction members generalizing done key last with
  | nil => rw [List.append_nil]; rfl
  | cons member members ih =>
    obtain ⟨hmember, hmembers⟩ := List.forall_mem_cons.1 h
    have hrow : memberTokens (member :: members) ++ [Token.closeBrace] =
        [.comma, .string member.1, .colon] ++ (member.2.tokens ++
          (memberTokens members ++ [.closeBrace])) := by simp [memberTokens]
    have hkey : [Token.comma, .string member.1, .colon].foldlM step
          ⟨.object done key :: frames, .continuation last⟩ =
        some ⟨.object ((key, last) :: done) member.1 :: frames, .value⟩ := rfl
    rw [hrow, foldlM_append_of_eq_some hkey, foldlM_append_of_eq_some (hmember _), ih hmembers]
    simp

/-- Any value is read from its tokens. -/
theorem restores (v : Value) : Restores v := by
  induction v using Value.induct with
  | null => exact fun _ => rfl
  | bool b => exact fun _ => rfl
  | number literal => exact fun _ => rfl
  | string text => exact fun _ => rfl
  | array items ih =>
    intro frames
    cases items with
    | nil => rfl
    | cons item items =>
      obtain ⟨hitem, hitems⟩ := List.forall_mem_cons.1 ih
      have hrow : (Value.array (item :: items)).tokens =
          [.openBracket] ++ (item.tokens ++ (itemTokens items ++ [.closeBracket])) := by
        simp [Value.tokens]
      have hopen : [Token.openBracket].foldlM step ⟨frames, .value⟩ =
          some ⟨frames, .firstItem⟩ := rfl
      have hfirst := (foldlM_firstItem frames item).trans (hitem _)
      rw [hrow, foldlM_append_of_eq_some hopen, foldlM_append_of_eq_some hfirst,
        foldlM_itemTokens hitems]
      rfl
  | object members ih =>
    intro frames
    cases members with
    | nil => rfl
    | cons member members =>
      obtain ⟨hmember, hmembers⟩ := List.forall_mem_cons.1 ih
      have hrow : (Value.object (member :: members)).tokens =
          [.openBrace, .string member.1, .colon] ++ (member.2.tokens ++
            (memberTokens members ++ [.closeBrace])) := by simp [Value.tokens]
      have hopen : [Token.openBrace, .string member.1, .colon].foldlM step ⟨frames, .value⟩ =
          some ⟨.object [] member.1 :: frames, .value⟩ := rfl
      rw [hrow, foldlM_append_of_eq_some hopen, foldlM_append_of_eq_some (hmember _),
        foldlM_memberTokens hmembers]
      rfl

end Reader

theorem ofTokens?_tokens (v : Value) : ofTokens? v.tokens = some v := by
  rw [ofTokens?, Reader.restores v [], Option.bind_eq_bind, Option.bind_some]
  rfl

/-- A document that is split into the tokens of a value is read as the value. -/
theorem read?_of_tokens? {text : String} {v : Value} (h : tokens? text.toList = some v.tokens) :
    read? text = some v := by
  rw [read?, h, Option.bind_eq_bind, Option.bind_some, ofTokens?_tokens]

/-- In whatever layout a value is written, it is read back. -/
theorem read?_write {layout : Layout} (hlayout : layout.IsSpaced) {v : Value} (hv : v.WellFormed)
    (depth : Nat) : read? (String.ofList (write layout depth v)) = some v := by
  have hsplits := hv.splitsAs hlayout depth [] stops_nil
  apply read?_of_tokens?
  simpa [tokens?_nil] using hsplits

theorem read?_pretty {v : Value} (hv : v.WellFormed) : read? v.pretty = some v :=
  read?_write Layout.pretty_isSpaced hv 0

theorem read?_compact {v : Value} (hv : v.WellFormed) : read? v.compact = some v :=
  read?_write Layout.compact_isSpaced hv 0

end BlockLang.Json
