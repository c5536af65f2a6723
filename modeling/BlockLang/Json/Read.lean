-- SUMMARY: Reading a JSON document: the value that a row of tokens describes.
import BlockLang.Json.Token

namespace BlockLang.Json

/-!
## Reading

A document is read token by token. Arrays and objects that are not closed yet are kept as frames, so
that nesting takes no more than the frames it needs.
-/

/-- An array or object that is not closed yet; what it holds so far comes the latest first. -/
inductive Frame where
  | array (items : List Value)
  /-- The value of `key` is being read. -/
  | object (members : List Member) (key : Option String)
deriving Repr

/-- What the next token may be. -/
inductive Expecting where
  | value
  /-- The first item of an array, or its end. -/
  | firstItem
  /-- The first key of an object, or its end. -/
  | firstKey
  /-- A further key of an object. -/
  | key (members : List Member)
  /-- The colon after a key. -/
  | colon (members : List Member) (key : Option String)
  /-- What comes after a complete value. -/
  | continuation (value : Value)
deriving Repr

/-- A document part of the way through. -/
structure Reader where
  frames : List Frame := []
  expecting : Expecting := .value
deriving Repr

namespace Reader

/-- Read the first token of a value inside some frames. -/
def beginValue (frames : List Frame) : Token → Option Reader
  | .null => some ⟨frames, .continuation .null⟩
  | .bool b => some ⟨frames, .continuation (.bool b)⟩
  | .number literal => some ⟨frames, .continuation (.number literal)⟩
  | .string text => some ⟨frames, .continuation (.string text)⟩
  | .openBracket => some ⟨frames, .firstItem⟩
  | .openBrace => some ⟨frames, .firstKey⟩
  | .closeBracket | .closeBrace | .comma | .colon => none

/-- Read the token after a complete value. -/
def continueWith (value : Value) : List Frame → Token → Option Reader
  | .array items :: frames, .comma => some ⟨.array (value :: items) :: frames, .value⟩
  | .array items :: frames, .closeBracket =>
    some ⟨frames, .continuation (.array (value :: items).reverse)⟩
  | .object members key :: frames, .comma => some ⟨frames, .key ((key, value) :: members)⟩
  | .object members key :: frames, .closeBrace =>
    some ⟨frames, .continuation (.object ((key, value) :: members).reverse)⟩
  | _, _ => none

def step (r : Reader) (token : Token) : Option Reader :=
  match r.expecting, token with
  | .value, token => beginValue r.frames token
  | .firstItem, .closeBracket => some ⟨r.frames, .continuation (.array [])⟩
  | .firstItem, token => beginValue (.array [] :: r.frames) token
  | .firstKey, .closeBrace => some ⟨r.frames, .continuation (.object [])⟩
  | .firstKey, .string key => some ⟨r.frames, .colon [] key⟩
  | .key members, .string key => some ⟨r.frames, .colon members key⟩
  | .colon members key, .colon => some ⟨.object members key :: r.frames, .value⟩
  | .continuation value, token => continueWith value r.frames token
  | _, _ => none

/-- The value read, if the document is complete. -/
def result? : Reader → Option Value
  | ⟨[], .continuation value⟩ => some value
  | _ => none

end Reader

/-- The value that a row of tokens describes. -/
def ofTokens? (tokens : List Token) : Option Value := do
  (← tokens.foldlM Reader.step {}).result?

/-- The value that a document describes. -/
def read? (text : String) : Option Value := do
  ofTokens? (← tokens? text.toList)

end BlockLang.Json
