/-!
# Positions in a pattern

Lines and columns are counted from one, and a column is one character.
-/

namespace GpuTelemetry.Regex

structure Position where
  line : Nat := 1
  column : Nat := 1
  deriving DecidableEq

/-- The position after a character. -/
def Position.after (position : Position) (c : Char) : Position :=
  if c = '\n' then { line := position.line + 1 }
  else { position with column := position.column + 1 }

/-- A part of a pattern, up to the position after its last character. -/
structure Span where
  start : Position
  stop : Position
  deriving DecidableEq

namespace Span

/-- The empty part at a position. -/
def point (position : Position) : Span :=
  ⟨position, position⟩

/-- The smallest part with two others that come in this order. -/
def join (first last : Span) : Span :=
  ⟨first.start, last.stop⟩

def isOneLine (span : Span) : Bool :=
  span.start.line = span.stop.line

end Span

end GpuTelemetry.Regex
