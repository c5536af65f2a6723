-- SUMMARY: Reports as JSON documents.
import BlockLang.Json.Print
import BlockLang.Json.Read
import BlockLang.Report

namespace BlockLang

open Json (Value)

/-!
## Report documents

A report is written as an object whose members come in a fixed order. It is read from an object with
its members in any order and others among them, or from an array of exactly its parts; and likewise
for a location.
-/

/-! ## Writing -/

def Severity.name : Severity → String
  | error => "Error"
  | warning => "Warning"

def Location.toValue (l : Location) : Value :=
  .ofMembers [("file", .ofString l.file), ("line", .ofNat l.line), ("start", .ofNat l.start),
    ("end", .ofNat l.stop)]

namespace Report

def toValue (r : Report) : Value :=
  .ofMembers [("code", .ofString r.code), ("severity", .ofString r.severity.name),
    ("message", .ofString r.message), ("location", .ofOption Location.toValue r.location)]

def toJson (r : Report) : String := r.toValue.pretty

def listToJson (reports : List Report) : String :=
  (Value.array (reports.map toValue)).pretty

end Report

/-! ## Reading -/

def Severity.ofName? (name : String) : Option Severity :=
  [error, warning].find? (·.name == name)

/-- The severity that a value names, by itself or as the key of a single `null`. -/
def Severity.ofValue? : Value → Option Severity
  | .string (some name) => ofName? name
  | .object [(some name, .null)] => ofName? name
  | _ => none

def Location.ofParts? (file line start stop : Value) : Option Location :=
  return { file := ← file.text?, line := ← line.word?, start := ← start.word?,
           stop := ← stop.word? }

def Location.ofValue? : Value → Option Location
  | .object members => do
    let members ← Json.textKeys? members
    ofParts? (← Json.required? members "file") (← Json.required? members "line")
      (← Json.required? members "start") (← Json.required? members "end")
  | .array [file, line, start, stop] => ofParts? file line start stop
  | _ => none

namespace Report

/-- The location of a report, which may be left out or `null`. -/
def location? : Option Value → Option (Option Location)
  | none | some .null => some none
  | some value => (Location.ofValue? value).map some

def ofParts? (code severity message : Value) (location : Option Value) : Option Report :=
  return { code := ← code.text?, severity := ← Severity.ofValue? severity,
           message := ← message.text?, location := ← location? location }

def ofValue? : Value → Option Report
  | .object members => do
    let members ← Json.textKeys? members
    ofParts? (← Json.required? members "code") (← Json.required? members "severity")
      (← Json.required? members "message") (← Json.optional? members "location")
  | .array [code, severity, message, location] => ofParts? code severity message location
  | _ => none

/-- The report that a document describes. -/
def ofJson? (text : String) : Option Report :=
  Json.read? text >>= ofValue?

end Report

end BlockLang
