-- SUMMARY: What a command line prints and how it ends, given the files it may read.
import BlockLang.Check
import BlockLang.CommandLine.Arguments
import BlockLang.Config.Json
import BlockLang.Listing
import BlockLang.Report.Json
import BlockLang.Source

namespace BlockLang.CommandLine

/-!
# Commands

`tokens` lists the tokens of a file and `check` reports what is wrong with it. A command ends with 0
if all is well, with 1 if the file has errors, and with 2 if it could not do its work at all.
-/

/-- What becomes of an attempt to read a file. -/
inductive FileContent where
  /-- The file could not be opened. -/
  | unopened (reason : String)
  /-- The file was opened, but could not be read. -/
  | unread (reason : String)
  | bytes (bytes : ByteArray)

/-- The files that a command may read, by their paths. -/
abbrev Files := String → FileContent

/-- What a command prints, and how it ends. -/
structure Outcome where
  exitCode : Nat
  stdout : String := ""
  stderr : String := ""
deriving DecidableEq, Repr

/-! ## Files -/

/-- The text of the file to work on, or why there is none. -/
def readInput (files : Files) (path : String) : Except String String :=
  match files path with
  | .unopened reason => .error ("cannot open " ++ path ++ ": " ++ reason)
  | .unread reason => .error ("cannot read " ++ path ++ ": " ++ (Error.io reason).message)
  | .bytes bytes =>
    match decodeText bytes with
    | .ok text => .ok text
    | .error reason => .error ("cannot read " ++ path ++ ": " ++ (Error.io reason).message)

/-- The text of a configuration file, or why there is none. -/
def readConfigText (files : Files) (path : String) : Except String String :=
  let content : Except String String := match files path with
    | .unopened reason | .unread reason => .error reason
    | .bytes bytes => decodeText bytes
  content.mapError fun reason => "cannot read " ++ path ++ ": " ++ reason

/-- The configuration of a check: that of the file if one is given, with the depth changed if one is
given. -/
def loadConfig (files : Files) (maxDepth : Option Nat) (path : Option String) :
    Except String Config := do
  let loaded ← match path with
    | some path => (Config.ofJson (← readConfigText files path)).mapError ConfigError.message
    | none => pure {}
  let config : Config := match maxDepth with
    | some maxDepth => { loaded with maxDepth }
    | none => loaded
  (config.validate.map fun _ => config).mapError ConfigError.message

/-! ## Commands -/

/-- Print reports after what is printed already: as a document on the standard output, or as lines
on the error output. -/
def Outcome.withReports (o : Outcome) (reports : List Report) (json : Bool) : Outcome :=
  if json then { o with stdout := o.stdout ++ Report.listToJson reports ++ "\n" }
  else { o with stderr := o.stderr ++ Report.listToText reports }

def listTokens (file source : String) (json : Bool) : Outcome :=
  let drained := (Lexer.ofString source).drain
  let rows := Listing.rows drained
  let stdout := if json then Listing.toJson rows ++ "\n" else Listing.toText rows
  match drained.failure with
  | none => { exitCode := 0, stdout }
  | some error =>
    Outcome.withReports { exitCode := 1, stdout } [.ofError (.lexical error) file] json

/-- Report what is wrong with a text. -/
def checkSource (config : Config) (file source : String) (json : Bool) :
    Except String Outcome := do
  let scopes ← (Scopes.create config).mapError ConfigError.message
  let reports := Check.reports file scopes source
  let exitCode := if Check.isClean reports then 0 else 1
  if reports.isEmpty ∧ !json then return { exitCode, stdout := "No errors found\n" }
  else return Outcome.withReports { exitCode } reports json

/-- End a command that could not do its work. -/
def Outcome.ofFailure (reason : String) : Outcome :=
  { exitCode := 2, stderr := "Error: " ++ reason ++ "\n" }

def Outcome.ofExcept : Except String Outcome → Outcome
  | .ok outcome => outcome
  | .error reason => .ofFailure reason

def usage : String :=
  "Usage: tokens [--json] FILE\n" ++
  "       check [--max-depth N] [--config FILE] [--json] FILE\n"

def Request.run (files : Files) : Request → Outcome
  | .tokens input json => .ofExcept do
    return listTokens input (← readInput files input) json
  | .check input maxDepth config json => .ofExcept do
    let config ← loadConfig files maxDepth config
    checkSource config input (← readInput files input) json
  | .version => { exitCode := 0, stdout := "lexscope 0.1.0\n" }
  | .stop .help => { exitCode := 0, stdout := usage }
  | .stop .misuse => { exitCode := 2, stderr := usage }

/-- The paths of the files that a request reads. -/
def Request.paths : Request → List String
  | .tokens input _ => [input]
  | .check input _ config _ => config.toList ++ [input]
  | .version | .stop _ => []

def run (files : Files) (words : List String) : Outcome :=
  (Request.ofWords words).run files

end BlockLang.CommandLine
