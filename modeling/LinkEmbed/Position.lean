/-!
# Source positions

Where a node stands in the text it was read from: lines and columns count from one, offsets count bytes
from zero. All zeros is the position of a node that no text was read for.
-/

namespace LinkEmbed

/-- A point in a text. -/
structure Point where
  line : Nat := 0
  column : Nat := 0
  offset : Nat := 0
deriving DecidableEq, Repr, Inhabited

/-- A span of a text, from `start` up to and without `stop`. -/
structure Position where
  start : Point := {}
  stop : Point := {}
deriving DecidableEq, Repr, Inhabited

namespace Position

/-- A span within one line, with no offsets. -/
def ofLine (line startColumn stopColumn : Nat) : Position :=
  ⟨⟨line, startColumn, 0⟩, ⟨line, stopColumn, 0⟩⟩

/-- The line that the span starts on. -/
def startLine (p : Position) : Nat := p.start.line

/-- The span as `line:column-line:column`. -/
def text (p : Position) : String :=
  s!"{p.start.line}:{p.start.column}-{p.stop.line}:{p.stop.column}"

end Position

end LinkEmbed
