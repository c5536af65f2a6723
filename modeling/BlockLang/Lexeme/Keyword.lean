-- SUMMARY: The reserved words of the language.
import BlockLang.Lexeme.Spelling

namespace BlockLang

/-!
## Keywords

A reserved word is spelled in lower case and can never be an identifier.
-/

inductive Keyword where
  | array
  | boolean
  | break_
  | char
  | continue_
  | do_
  | else_
  | false_
  | function
  | if_
  | integer
  | of_
  | return_
  | string
  | struct
  | true_
  | type
  | var
  | while_
deriving DecidableEq, Repr

namespace Keyword

/-- All reserved words, in the order of their spellings. -/
def all : List Keyword :=
  [array, boolean, break_, char, continue_, do_, else_, false_, function, if_, integer, of_,
   return_, string, struct, true_, type, var, while_]

def spelling : Keyword → String
  | array => "array"
  | boolean => "boolean"
  | break_ => "break"
  | char => "char"
  | continue_ => "continue"
  | do_ => "do"
  | else_ => "else"
  | false_ => "false"
  | function => "function"
  | if_ => "if"
  | integer => "integer"
  | of_ => "of"
  | return_ => "return"
  | string => "string"
  | struct => "struct"
  | true_ => "true"
  | type => "type"
  | var => "var"
  | while_ => "while"

/-- The name under which listings show a reserved word. -/
def name : Keyword → String
  | array => "Array"
  | boolean => "Boolean"
  | break_ => "Break"
  | char => "Char"
  | continue_ => "Continue"
  | do_ => "Do"
  | else_ => "Else"
  | false_ => "False"
  | function => "Function"
  | if_ => "If"
  | integer => "Integer"
  | of_ => "Of"
  | return_ => "Return"
  | string => "String"
  | struct => "Struct"
  | true_ => "True"
  | type => "Type"
  | var => "Var"
  | while_ => "While"

def ofSpelling? (word : String) : Option Keyword :=
  findSpelled? all spelling word

theorem mem_all (k : Keyword) : k ∈ all := by
  cases k <;> decide

theorem spelling_injective (k l : Keyword) (h : k.spelling = l.spelling) : k = l := by
  revert h
  cases k <;> cases l <;> simp [spelling]

theorem ofSpelling?_eq_some_iff {word : String} {k : Keyword} :
    ofSpelling? word = some k ↔ k.spelling = word :=
  findSpelled?_eq_some_iff mem_all spelling_injective

end Keyword

end BlockLang
