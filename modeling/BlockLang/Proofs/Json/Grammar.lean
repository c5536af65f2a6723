-- SUMMARY: The documents of a value, in whatever layout and spelling, and that each is read as it.
import BlockLang.Proofs.Json.RoundTrip
import BlockLang.Proofs.Json.Spelling
import Mathlib.Data.List.Chain

namespace BlockLang.Json

/-!
# Documents of a value

A document of a value is the row of its tokens, each in one of its spellings, with any spaces before,
between and behind them. Two numbers would run together without spaces between them, but they never
stand side by side in the row of a value (`Value.apart_tokens`). So a document is read as the value
that it is a document of, and as no other: `read?_of_isDocument`.
-/

/-- The ways to write a token. -/
inductive Token.Spells : Token → List Char → Prop
  | openBracket : Spells .openBracket ['[']
  | closeBracket : Spells .closeBracket [']']
  | openBrace : Spells .openBrace ['{']
  | closeBrace : Spells .closeBrace ['}']
  | comma : Spells .comma [',']
  | colon : Spells .colon [':']
  | null : Spells .null ['n', 'u', 'l', 'l']
  | isTrue : Spells (.bool true) ['t', 'r', 'u', 'e']
  | isFalse : Spells (.bool false) ['f', 'a', 'l', 's', 'e']
  | number {literal : String} (h : IsNumeral literal.toList) :
    Spells (.number literal) literal.toList
  | string {parts : List StringPart} {body : List Char} (h : SpellsParts parts body)
    {text : Option String} (htext : StandsFor parts text) :
    Spells (.string text) ('"' :: (body ++ ['"']))

/-- A text without quotes, backslashes and control characters is written as it is. -/
theorem Token.spells_plain (text : String) (h : ∀ c ∈ text.toList, isPlain c) :
    Spells (.string (some text)) ('"' :: (text.toList ++ ['"'])) :=
  .string (spellsParts_plain h) (denotes_map_char text.toList)

/-- The ways to write a row of tokens, with spaces before each of them and behind the last. -/
inductive SpellsRow : List Token → List Char → Prop
  | nil (spaces : List Char) (hspaces : ∀ c ∈ spaces, isSpace c) : SpellsRow [] spaces
  | cons (spaces : List Char) (hspaces : ∀ c ∈ spaces, isSpace c) {token : Token}
    {tokens : List Token} {text rest : List Char} (htoken : token.Spells text)
    (hrow : SpellsRow tokens rest) : SpellsRow (token :: tokens) (spaces ++ (text ++ rest))

/-- A text is a document of a value. -/
def IsDocument (v : Value) (text : String) : Prop :=
  SpellsRow v.tokens text.toList

/-! ## Numbers stay apart -/

def Token.isNumber : Token → Bool
  | .number _ => true
  | _ => false

/-- No two numbers of a row stand side by side. -/
def Apart : List Token → Prop :=
  List.IsChain fun a b => a.isNumber → b.isNumber = false

variable {token : Token} {tokens more : List Token}

theorem apart_cons (htoken : token.isNumber = false) (h : Apart tokens) :
    Apart (token :: tokens) := by
  apply List.IsChain.cons h
  intro _ _ hnumber
  rw [htoken] at hnumber
  cases hnumber

/-- A token that is no number keeps what is before it apart from what is behind it. -/
theorem Apart.append_cons (h : Apart tokens) (htoken : token.isNumber = false) (hmore : Apart more) :
    Apart (tokens ++ token :: more) := by
  apply List.IsChain.append h (apart_cons htoken hmore)
  rintro _ _ _ ⟨⟩ _
  exact htoken

theorem Apart.append_itemTokens {items : List Value} (hitems : ∀ item ∈ items, Apart item.tokens)
    (h : Apart tokens) : Apart (tokens ++ (itemTokens items ++ [.closeBracket])) := by
  induction items generalizing tokens with
  | nil => exact h.append_cons rfl .nil
  | cons item items ih =>
    obtain ⟨hitem, hitems⟩ := List.forall_mem_cons.1 hitems
    rw [itemTokens, List.cons_append, List.cons_append, List.append_assoc]
    exact h.append_cons rfl (ih hitems hitem)

theorem Apart.append_memberTokens {members : List Member}
    (hmembers : ∀ member ∈ members, Apart member.2.tokens) (h : Apart tokens) :
    Apart (tokens ++ (memberTokens members ++ [.closeBrace])) := by
  induction members generalizing tokens with
  | nil => exact h.append_cons rfl .nil
  | cons member members ih =>
    obtain ⟨hmember, hmembers⟩ := List.forall_mem_cons.1 hmembers
    have hcolon : Token.colon.isNumber = false := rfl
    have hrest := apart_cons hcolon (ih hmembers hmember)
    simp only [memberTokens, List.cons_append, List.append_assoc]
    exact h.append_cons rfl (apart_cons rfl hrest)

/-- In the row of a value, no two numbers stand side by side. -/
theorem Value.apart_tokens (v : Value) : Apart v.tokens := by
  induction v using Value.induct with
  | null | bool b | number literal | string text => exact .singleton _
  | array items ih =>
    cases items with
    | nil => exact apart_cons rfl (.singleton _)
    | cons item items =>
      obtain ⟨hitem, hitems⟩ := List.forall_mem_cons.1 ih
      rw [Value.tokens, List.cons_append, List.cons_append, List.append_assoc]
      exact apart_cons rfl (hitem.append_itemTokens hitems)
  | object members ih =>
    cases members with
    | nil => exact apart_cons rfl (.singleton _)
    | cons member members =>
      obtain ⟨hmember, hmembers⟩ := List.forall_mem_cons.1 ih
      have hrest := hmember.append_memberTokens hmembers
      simp only [Value.tokens, List.cons_append, List.append_assoc]
      exact apart_cons rfl (apart_cons rfl (apart_cons rfl hrest))

/-! ## Splitting a document -/

/-- Only a number goes on with a number. -/
theorem Token.Spells.stops {text : List Char} (h : token.Spells text)
    (htoken : token.isNumber = false) (rest : List Char) : Stops (text ++ rest) := by
  cases h with
  | number => cases htoken
  | _ => exact stops_cons rfl _

theorem SpellsRow.stops {text : List Char} (h : SpellsRow tokens text)
    (hhead : ∀ token ∈ tokens.head?, token.isNumber = false) : Stops text := by
  cases h with
  | nil _ hspaces => exact stops_spaces hspaces
  | cons _ hspaces htoken => exact (stops_spaces hspaces).append (htoken.stops (hhead _ rfl) _)

/-- A token is split off a text in each of its spellings. -/
theorem Token.Spells.tokens? {text rest : List Char} (h : token.Spells text)
    (hrest : token.isNumber → Stops rest) :
    tokens? (text ++ rest) = (tokens? rest).map (token :: ·) := by
  cases h with
  | openBracket | closeBracket | openBrace | closeBrace | comma | colon =>
    exact tokens?_punctuation rfl rest
  | null | isTrue | isFalse => exact tokens?_name (by simp [names]) rest
  | number h => exact tokens?_number (isNumber_of_isNumeral h) (hrest rfl)
  | @string parts body h text htext =>
    rw [List.cons_append, List.append_assoc]
    apply tokens?_of_scanToken rfl
    have hquote : punctuation? '"' = none := rfl
    simp [scanToken, hquote, h.scanString, h.stringText? htext]

/-- A row of tokens is split again, in whatever layout, if no two numbers stand side by side. -/
theorem tokens?_of_spellsRow {text : List Char} (h : SpellsRow tokens text) (hapart : Apart tokens) :
    tokens? text = some tokens := by
  induction h with
  | nil spaces hspaces =>
    rw [← List.append_nil spaces, tokens?_spaces hspaces, tokens?_nil]
  | cons spaces hspaces htoken hrow ih =>
    have hneighbours := List.isChain_cons.1 hapart
    have hrest := ih hneighbours.2
    rw [tokens?_spaces hspaces, htoken.tokens?, hrest, Option.map_some]
    exact fun hnumber => hrow.stops fun token htoken => hneighbours.1 token htoken hnumber

/-- A document of a value is read as the value. -/
theorem read?_of_isDocument {v : Value} {text : String} (h : IsDocument v text) :
    read? text = some v :=
  read?_of_tokens? (tokens?_of_spellsRow h v.apart_tokens)

end BlockLang.Json
