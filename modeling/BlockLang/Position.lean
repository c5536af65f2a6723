-- SUMMARY: Places in a source text: positions, and the spans between two of them.

namespace BlockLang

/-!
## Positions and spans

A place is counted in characters from the start of the text, and in lines from one. Only the line
feed starts a new line.
-/

/-- A place between two characters of a text. -/
structure Position where
  /-- The number of characters before it. -/
  offset : Nat := 0
  /-- The line it is on. -/
  line : Nat := 1
deriving DecidableEq, Repr

/-- The place reached by reading `text` from `p`. -/
def Position.advance (p : Position) (text : List Char) : Position :=
  ⟨p.offset + text.length, p.line + text.count '\n'⟩

theorem Position.advance_append (p : Position) (s t : List Char) :
    p.advance (s ++ t) = (p.advance s).advance t := by
  simp [Position.advance, Nat.add_assoc]

/-- A run of characters: where it starts and stops, and the line it starts on. -/
structure Span where
  start : Nat := 0
  stop : Nat := 0
  line : Nat := 1
deriving DecidableEq, Repr

/-- The run between two places. -/
def Position.to (p q : Position) : Span :=
  ⟨p.offset, q.offset, p.line⟩

namespace Span

def length (s : Span) : Nat := s.stop - s.start

def isEmpty (s : Span) : Bool := s.start == s.stop

end Span

end BlockLang
