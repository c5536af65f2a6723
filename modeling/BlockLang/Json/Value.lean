-- SUMMARY: JSON values, and access to their parts.
import BlockLang.Word

namespace BlockLang.Json

/-!
# JSON values

A value keeps what a document says and no more: a number is kept as it is written, and the members
of an object in their order, repeated keys included.

The text of a string is optional. A string may escape half of a surrogate pair without the other
half; such a string is well formed, but there is no text that it stands for.
-/

inductive Value where
  | null
  | bool (b : Bool)
  | number (literal : String)
  | string (text : Option String)
  | array (items : List Value)
  | object (members : List (Option String × Value))
deriving Repr

/-- A key and what it is mapped to. -/
abbrev Member := Option String × Value

namespace Value

/-- A number that is a word. -/
def ofNat (n : Nat) : Value := .number (toString n)

/-- A string that stands for a text. -/
def ofString (text : String) : Value := .string (some text)

/-- An object whose keys are texts. -/
def ofMembers (members : List (String × Value)) : Value :=
  .object (members.map fun (key, value) => (some key, value))

/-- A value, or `null` where there is none. -/
def ofOption {α : Type} (f : α → Value) : Option α → Value
  | some a => f a
  | none => .null

/-- The word that a value denotes: a literal of digits alone that fits in a word. -/
def word? : Value → Option Nat
  | .number literal =>
    let n := Nat.ofDigitChars 10 literal.toList 0
    if literal.toList.all Char.isDigit ∧ FitsWord n then some n else none
  | _ => none

def text? : Value → Option String
  | .string text => text
  | _ => none

end Value

/-! ## Members -/

/-- The members of an object all of whose keys are texts. -/
def textKeys? (members : List Member) : Option (List (String × Value)) :=
  members.mapM fun (key, value) => key.map (·, value)

/-- The value of a member that an object may have once; a repeated key is refused. -/
def optional? (members : List (String × Value)) (key : String) : Option (Option Value) :=
  match members.filter (·.1 == key) with
  | [] => some none
  | [(_, value)] => some (some value)
  | _ => none

/-- The value of a member that an object has exactly once. -/
def required? (members : List (String × Value)) (key : String) : Option Value :=
  (optional? members key).join

end BlockLang.Json
