-- SUMMARY: The configuration of an analysis: how deep blocks may nest.

namespace BlockLang

/-!
## Configuration
-/

/-- The limits of an analysis. -/
structure Config where
  /-- The number of block levels that may be open at once, the outermost one included. -/
  maxDepth : Nat := 64
deriving DecidableEq, Repr

/-- Why a configuration is of no use. -/
inductive ConfigError where
  /-- Not even the outermost level may be open. -/
  | zeroDepth
  /-- The text of the configuration could not be understood. -/
  | unreadable (reason : String)
deriving DecidableEq, Repr

/-- Refuse a configuration that leaves no room for the outermost level. -/
def Config.validate (c : Config) : Except ConfigError Unit :=
  if c.maxDepth = 0 then .error .zeroDepth else .ok ()

end BlockLang
