-- SUMMARY: Configurations as JSON documents.
import BlockLang.Config
import BlockLang.Json.Print
import BlockLang.Json.Read

namespace BlockLang.Config

open Json (Value)

/-!
## Configuration documents

A document is an object with the member `max_depth`, or an array with the same value at its front.
Either may leave the value out, and then the default holds. An object may have other members, which
are ignored.
-/

/-- A configuration with a given depth, or the default one. -/
def ofDepth? : Option Value → Option Config
  | some value => value.word?.map fun maxDepth => { maxDepth }
  | none => some {}

def ofValue? : Value → Option Config
  | .object members => do ofDepth? (← Json.optional? (← Json.textKeys? members) "max_depth")
  | .array [] => ofDepth? none
  | .array [value] => ofDepth? (some value)
  | _ => none

/-- Read and validate a configuration. -/
def ofJson (text : String) : Except ConfigError Config :=
  match Json.read? text >>= ofValue? with
  | some config => config.validate.map fun _ => config
  | none => .error (.unreadable "a JSON object is expected, with a number max_depth if any")

def toValue (c : Config) : Value :=
  .ofMembers [("max_depth", .ofNat c.maxDepth)]

/-- A configuration as a document of one line. -/
def toJson (c : Config) : String := c.toValue.compact

end BlockLang.Config
