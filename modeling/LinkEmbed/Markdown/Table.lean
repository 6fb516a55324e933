import LinkEmbed.Markdown.Resource
import LinkEmbed.Text.Blank
import LinkEmbed.Text.Ranges

/-!
# Tables

A line of cells, with bars between them, begins a table if the line below it says how the cells are aligned.
Both must have the same number of cells; the rows that follow may have any.
-/

namespace LinkEmbed.Markdown

/-- A cell: all that belongs to it, with its bars, and the text in it. -/
structure Cell where
  position : Position
  text : List Glyph
deriving Inhabited

/-- A row of cells. -/
structure Row where
  position : Position
  cells : List Cell
deriving Inhabited

namespace Row

/-- The parts of a row between its bars. Each part but the first begins with a bar; a bar behind a backslash
is a character of a cell. -/
def parts (escaped : Bool) : List Glyph → List (List Glyph)
  | [] => [[]]
  | g :: gs =>
    match parts (g.char == '\\' && !escaped) gs with
    | [] => [[g]]
    | part :: more => if g.char = '|' ∧ !escaped then [] :: (g :: part) :: more else (g :: part) :: more

/-- Characters without blanks at both ends. -/
def trimBlanks (gs : List Glyph) : List Glyph :=
  Text.dropTrailing (fun g => isBlank g.char) (gs.dropWhile fun g => isBlank g.char)

/-- The text of a part that begins with a bar or not. -/
def partText (part : List Glyph) : List Glyph :=
  trimBlanks (if (part.head?.map Glyph.char) = some '|' then part.drop 1 else part)

/-- Put the last of some parts behind the one before it, if there is no text in it. -/
def joinLast : List (List Glyph) → List (List Glyph)
  | [] => []
  | [p] => [p]
  | [p, q] => if (partText q).isEmpty then [p ++ q] else [p, q]
  | p :: q :: r :: ps => p :: joinLast (q :: r :: ps)

/-- The characters of each cell. Blanks before the first bar belong to the first cell, and the last bar
belongs to the last one. -/
def cellParts (gs : List Glyph) : List (List Glyph) :=
  match parts false gs with
  | [] => []
  | first :: ps =>
    if ps.isEmpty then [first]
    else if (trimBlanks first).isEmpty then
      match joinLast ps with
      | [] => [first]
      | p :: ps => (first ++ p) :: ps
    else joinLast (first :: ps)

/-- The text of the characters of a cell. -/
def cellText (gs : List Glyph) : List Glyph :=
  let inner := trimBlanks gs
  let behindBar := if (inner.head?.map Glyph.char) = some '|' then inner.drop 1 else inner
  let text := trimBlanks behindBar
  match parts false text with
  | t :: _ => trimBlanks t
  | [] => text

/-- Read a row. -/
def ofGlyphs (gs : List Glyph) : Row :=
  ⟨Glyph.span gs, (cellParts gs).map fun c => ⟨Glyph.span c, cellText c⟩⟩

end Row

/-- A line that may be the head of a table: more than a bar. -/
def isTableHead (gs : List Glyph) : Bool :=
  let cs := Glyph.chars gs
  let shown := cs.filter fun c => !isBlank c
  blanks cs < Glyph.tabStop && !shown.isEmpty && shown != ['|']

/-- The text between two bars of a line of alignments. -/
def isAlignment (cs : List Char) : Bool :=
  let inner := Text.dropTrailing isBlank (cs.dropWhile isBlank)
  let middle := if inner.head? = some ':' then inner.drop 1 else inner
  let dashes := if middle.getLast? = some ':' then middle.dropLast else middle
  !dashes.isEmpty && dashes.all (· == '-')

/-- The number of cells that a line of alignments is for. There must be a bar or a colon in it. -/
def alignments? (gs : List Glyph) : Option Nat :=
  let cs := Glyph.chars gs
  let line := Text.dropTrailing isBlank (cs.drop (blanks cs))
  let opened := if line.head? = some '|' then line.drop 1 else line
  let closed := if opened.getLast? = some '|' then opened.dropLast else opened
  let cells := Text.splitWhere (· == '|') closed
  if blanks cs < Glyph.tabStop ∧ line.any (fun c => c == '|' || c == ':') ∧ cells.all isAlignment then
    some cells.length
  else none

end LinkEmbed.Markdown
