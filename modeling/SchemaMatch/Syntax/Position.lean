/-!
# Positions in a pattern

A position counts bytes from the start of the pattern and, for messages, lines and columns from
one. A span runs from a position up to another one, which it does not include.
-/

namespace SchemaMatch.Syntax

/-- A place between two characters of a pattern. -/
structure Position where
  offset : Nat
  line : Nat
  column : Nat
  deriving DecidableEq, Repr

/-- A stretch of a pattern. -/
structure Span where
  start : Position
  stop : Position
  deriving DecidableEq, Repr

namespace Position

/-- The start of every pattern. -/
def first : Position := ⟨0, 1, 1⟩

def advance (position : Position) (c : Char) : Position :=
  if c == '\n' then ⟨position.offset + c.utf8Size, position.line + 1, 1⟩
  else ⟨position.offset + c.utf8Size, position.line, position.column + 1⟩

end Position

namespace Span

def point (position : Position) : Span := ⟨position, position⟩

def isOneLine (span : Span) : Bool := span.start.line == span.stop.line

end Span

end SchemaMatch.Syntax
