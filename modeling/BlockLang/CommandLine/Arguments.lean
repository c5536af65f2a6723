-- SUMMARY: The words of a command line and what they ask for.
import BlockLang.Word

namespace BlockLang.CommandLine

/-!
## Arguments

The first word names a command; the options of the command and the file follow in any order. An
option comes once at most, with its value in the next word or after an equals sign. The first word
that does not fit decides, so that a call for help before it is still heard.
-/

/-! ## One argument -/

/-- The roles of a word. -/
inductive Argument where
  | plain (text : String)
  /-- An option by its full name, with a value if there is an equals sign. -/
  | long (name : String) (value : Option String)
  /-- Options of one letter. -/
  | short (letters : List Char)
  /-- No option comes after this word. -/
  | endOfOptions
deriving DecidableEq, Repr

/-- The role of a word; a single dash is plain. -/
def Argument.ofString (word : String) : Argument :=
  match word.toList with
  | ['-', '-'] => .endOfOptions
  | '-' :: '-' :: text =>
    let name := String.ofList (text.takeWhile (· != '='))
    match text.dropWhile (· != '=') with
    | [] => .long name none
    | _ :: value => .long name (String.ofList value)
  | '-' :: c :: letters => .short (c :: letters)
  | _ => .plain word

/-! ## The arguments of a command -/

/-- Why a command is not carried out. -/
inductive Stop where
  /-- Help is asked for. -/
  | help
  /-- The command line is not understood. -/
  | misuse
deriving DecidableEq, Repr

inductive Command where
  | tokens
  | check
deriving DecidableEq, Repr

/-- The arguments of a command met so far. -/
structure Arguments where
  input : Option String := none
  json : Bool := false
  maxDepth : Option Nat := none
  config : Option String := none
deriving DecidableEq, Repr

namespace Arguments

def setInput (a : Arguments) (word : String) : Except Stop Arguments :=
  if a.input.isSome ∨ word.isEmpty then .error .misuse else .ok { a with input := word }

def setJson (a : Arguments) : Except Stop Arguments :=
  if a.json then .error .misuse else .ok { a with json := true }

/-- The number that a word denotes: digits, with a plus sign before them or not. -/
def depth? (word : String) : Option Nat :=
  let digits := match word.toList with
    | '+' :: digits => digits
    | digits => digits
  let n := Nat.ofDigitChars 10 digits 0
  if digits ≠ [] ∧ digits.all Char.isDigit ∧ FitsWord n then some n else none

def setMaxDepth (a : Arguments) (word : String) : Except Stop Arguments :=
  match a.maxDepth, depth? word with
  | none, some n => .ok { a with maxDepth := n }
  | _, _ => .error .misuse

def setConfig (a : Arguments) (word : String) : Except Stop Arguments :=
  if a.config.isSome ∨ word.isEmpty then .error .misuse else .ok { a with config := word }

/-- How an option with a value changes the arguments of a command. -/
def valueOption? (c : Command) (name : String) :
    Option (Arguments → String → Except Stop Arguments) :=
  match c, name with
  | .check, "max-depth" => some setMaxDepth
  | .check, "config" => some setConfig
  | _, _ => none

/-- Read the words after a command. -/
def read (c : Command) (a : Arguments) : List String → Except Stop Arguments
  | [] => .ok a
  | word :: words =>
    match Argument.ofString word with
    | .plain text => do read c (← a.setInput text) words
    | .endOfOptions => words.foldlM setInput a
    | .short ('h' :: _) => .error .help
    | .short _ => .error .misuse
    | .long "help" none => .error .help
    | .long "json" none => do read c (← a.setJson) words
    | .long name value =>
      match valueOption? c name, value, words with
      | some set, some value, words => do read c (← set a value) words
      | some set, none, next :: words =>
        match Argument.ofString next with
        | .plain value => do read c (← set a value) words
        | _ => .error .misuse
      | _, _, _ => .error .misuse

end Arguments

/-! ## Command lines -/

/-- What a command line asks for. -/
inductive Request where
  | tokens (input : String) (json : Bool)
  | check (input : String) (maxDepth : Option Nat) (config : Option String) (json : Bool)
  | version
  | stop (reason : Stop)
deriving DecidableEq, Repr

namespace Request

/-- Carry out a command with its arguments; the file has to be given. -/
def ofArguments (c : Command) (a : Arguments) : Request :=
  match c, a.input with
  | .tokens, some input => .tokens input a.json
  | .check, some input => .check input a.maxDepth a.config a.json
  | _, none => .stop .misuse

def ofCommand (c : Command) (words : List String) : Request :=
  match Arguments.read c {} words with
  | .ok a => ofArguments c a
  | .error reason => .stop reason

/-- Whether help is asked for as a command, about everything or about one command. -/
def isHelpTopic : List String → Bool
  | [] => true
  | [topic] => topic ∈ ["tokens", "check", "help"]
  | _ => false

/-- What the words of a command line ask for. -/
def ofWords : List String → Request
  | [] => .stop .misuse
  | "tokens" :: words => ofCommand .tokens words
  | "check" :: words => ofCommand .check words
  | "help" :: words => .stop (if isHelpTopic words then .help else .misuse)
  | word :: _ =>
    match Argument.ofString word with
    | .long "version" none | .short ('V' :: _) => .version
    | .long "help" none | .short ('h' :: _) => .stop .help
    | _ => .stop .misuse

end Request

end BlockLang.CommandLine
