-- SUMMARY: Writing JSON values, on one line or spread over lines.
import BlockLang.Json.Value

namespace BlockLang.Json

/-!
## Writing

A layout says what goes between the parts of a value. Nothing else about the written form is free:
members keep their order, and a string escapes what it has to and nothing else.
-/

/-- What goes between the parts of arrays and objects. -/
structure Layout where
  /-- Before each part, and before the closing bracket, at a depth of nesting. -/
  separation : Nat → List Char
  /-- Between a key and its value. -/
  colon : List Char

/-- Everything on one line, without spaces. -/
def Layout.compact : Layout where
  separation _ := []
  colon := [':']

/-- Each part on a line of its own, indented by two spaces for each level of nesting. -/
def Layout.pretty : Layout where
  separation depth := '\n' :: List.replicate (2 * depth) ' '
  colon := [':', ' ']

/-- A character as it stands inside a string. -/
def writeChar (c : Char) : List Char :=
  if c = '"' then ['\\', '"']
  else if c = '\\' then ['\\', '\\']
  else if c = '\x08' then ['\\', 'b']
  else if c = '\x0c' then ['\\', 'f']
  else if c = '\n' then ['\\', 'n']
  else if c = '\r' then ['\\', 'r']
  else if c = '\t' then ['\\', 't']
  else if c.toNat < 0x20 then
    ['\\', 'u', '0', '0', Nat.digitChar (c.toNat / 16), Nat.digitChar (c.toNat % 16)]
  else [c]

/-- A string between quotes. One that stands for no text is written as half of a surrogate pair. -/
def writeString : Option String → List Char
  | some text => '"' :: text.toList.flatMap writeChar ++ ['"']
  | none => ['"', '\\', 'u', 'd', '8', '0', '0', '"']

mutual

/-- A value at a depth of nesting. -/
def write (layout : Layout) (depth : Nat) : Value → List Char
  | .null => ['n', 'u', 'l', 'l']
  | .bool true => ['t', 'r', 'u', 'e']
  | .bool false => ['f', 'a', 'l', 's', 'e']
  | .number literal => literal.toList
  | .string text => writeString text
  | .array [] => ['[', ']']
  | .array (item :: items) =>
    '[' :: layout.separation (depth + 1) ++ write layout (depth + 1) item
      ++ writeItems layout (depth + 1) items ++ layout.separation depth ++ [']']
  | .object [] => ['{', '}']
  | .object ((key, value) :: members) =>
    '{' :: layout.separation (depth + 1) ++ writeString key ++ layout.colon
      ++ write layout (depth + 1) value
      ++ writeMembers layout (depth + 1) members ++ layout.separation depth ++ ['}']

/-- The items after the first. -/
def writeItems (layout : Layout) (depth : Nat) : List Value → List Char
  | [] => []
  | item :: items =>
    ',' :: layout.separation depth ++ write layout depth item ++ writeItems layout depth items

/-- The members after the first. -/
def writeMembers (layout : Layout) (depth : Nat) : List (Option String × Value) → List Char
  | [] => []
  | (key, value) :: members =>
    ',' :: layout.separation depth ++ writeString key ++ layout.colon
      ++ write layout depth value ++ writeMembers layout depth members

end

/-- A value on one line. -/
def Value.compact (v : Value) : String := String.ofList (write .compact 0 v)

/-- A value spread over lines. -/
def Value.pretty (v : Value) : String := String.ofList (write .pretty 0 v)

end BlockLang.Json
