-- SUMMARY: Deciding whether two types are the same type.
import BlockLang.Scopes.Basic

namespace BlockLang.Scopes

/-!
## Type equivalence

An alias stands for its base. Arrays are equivalent if they have as many elements of equivalent
types. The universal type is equivalent to any type. Any other type is equivalent to itself only;
in particular two struct types never are equivalent, whatever their fields.

A comparison goes down both types at once. As long as no type is part of itself it ends before any
two types are compared twice, so a bound on the number of steps loses nothing.
-/

/-- What a comparison of two types comes down to. -/
inductive Comparison where
  | decided (equivalent : Bool)
  /-- The two types are equivalent if these are. -/
  | compare (a b : SymbolId)
deriving DecidableEq, Repr

/-- Compare two types neither of which is an alias. -/
def compareShapes (a b : Symbol) : Comparison :=
  match a.descriptor, b.descriptor with
  | some (.arrayOf x m _), some (.arrayOf y n _) =>
    if m = n then .compare x y else .decided false
  | _, _ => .decided false

/-- Compare two types by looking at their outermost layers. -/
def compareStep (s : Scopes) (a b : SymbolId) : Except Fault Comparison :=
  if a = b ∨ a = universal ∨ b = universal then .ok (.decided true)
  else do
    let left ← s.symbol a
    let right ← s.symbol b
    if left.kind = .universal ∨ right.kind = .universal then return .decided true
    match left.aliasBase?, right.aliasBase? with
    | some x, some y => return .compare x y
    | some x, none => return .compare x b
    | none, some y => return .compare a y
    | none, none => return compareShapes left right

/-- Compare two types in at most `steps` steps. -/
def compareWithin (s : Scopes) : (steps : Nat) → (a b : SymbolId) → Except Fault Bool
  | 0, a, b => .error (.endless a b)
  | steps + 1, a, b => do
    match ← s.compareStep a b with
    | .decided equivalent => return equivalent
    | .compare x y => s.compareWithin steps x y

/-- Whether two types are equivalent. There are no more pairs to compare than pairs of symbols. -/
def equivalent (s : Scopes) (a b : SymbolId) : Except Fault Bool :=
  s.compareWithin (s.symbols.size * s.symbols.size + 1) a b

end BlockLang.Scopes
