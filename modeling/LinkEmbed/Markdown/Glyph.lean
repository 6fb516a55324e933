import LinkEmbed.Position

/-!
# Characters in their places

Markdown is about columns: a tab stands for the blanks up to the next stop, and a line may end in three ways.
`Glyph.ofText` gives a text as characters in their places, with a tab as one character for each of its
columns and with every line end as a line feed; `Glyph.text` gives back the text that characters came from.
A text falls into lines, each with its end.
-/

namespace LinkEmbed.Markdown

/-- A character in its place. `source` is what it stands for in the text, which is nothing for the columns
of a tab after the first. -/
structure Glyph where
  char : Char
  source : List Char
  start : Point
  stop : Point
deriving DecidableEq, Inhabited

/-- A blank or a tab. -/
def isBlank (c : Char) : Bool := c == ' ' || c == '\t'

/-- A blank, a tab or a line end. -/
def isGap (c : Char) : Bool := isBlank c || c == '\n'

namespace Glyph

/-- Columns from one tab stop to the next. -/
def tabStop : Nat := 4

/-- The number of columns that a tab in a column takes. -/
def tabWidth (column : Nat) : Nat := tabStop - (column - 1) % tabStop

/-- The columns of a tab after the first, `n` of them left. -/
def padding (p : Point) : Nat → List Glyph
  | 0 => []
  | n + 1 =>
    let q : Point := ⟨p.line, p.column + 1, if n = 0 then p.offset + 1 else p.offset⟩
    ⟨' ', [], p, q⟩ :: padding q n

/-- A tab at a point. -/
def tab (p : Point) : List Glyph :=
  match tabWidth p.column - 1 with
  | 0 => [⟨'\t', ['\t'], p, ⟨p.line, p.column + 1, p.offset + 1⟩⟩]
  | n + 1 =>
    let q : Point := ⟨p.line, p.column + 1, p.offset⟩
    ⟨'\t', ['\t'], p, q⟩ :: padding q (n + 1)

/-- The point behind a tab. -/
def afterTab (p : Point) : Point := ⟨p.line, p.column + tabWidth p.column, p.offset + 1⟩

/-- A line end at a point. -/
def lineEnd (source : List Char) (p : Point) : Glyph :=
  ⟨'\n', source, p, ⟨p.line + 1, 1, p.offset + source.length⟩⟩

/-- Any other character at a point. -/
def plain (c : Char) (p : Point) : Glyph :=
  ⟨c, [c], p, ⟨p.line, p.column + c.utf8Size, p.offset + c.utf8Size⟩⟩

/-- The characters of a text that begins at a point. -/
def ofChars (p : Point) : List Char → List Glyph
  | [] => []
  | '\r' :: '\n' :: r => lineEnd ['\r', '\n'] p :: ofChars ⟨p.line + 1, 1, p.offset + 2⟩ r
  | '\r' :: r => lineEnd ['\r'] p :: ofChars ⟨p.line + 1, 1, p.offset + 1⟩ r
  | '\n' :: r => lineEnd ['\n'] p :: ofChars ⟨p.line + 1, 1, p.offset + 1⟩ r
  | '\t' :: r => tab p ++ ofChars (afterTab p) r
  | c :: r => plain c p :: ofChars (plain c p).stop r

/-- The first point of a text. -/
def origin : Point := ⟨1, 1, 0⟩

/-- The characters of a whole text. -/
def ofText (s : String) : List Glyph := ofChars origin s.toList

/-- The characters for comparing with a grammar. -/
def chars (gs : List Glyph) : List Char := gs.map Glyph.char

/-- The text that characters came from. Columns of a tab that begins before them count as blanks. -/
def sourceChars (gs : List Glyph) : List Char :=
  let padded := gs.takeWhile fun g => g.source.isEmpty
  padded.map Glyph.char ++ (gs.drop padded.length).flatMap Glyph.source

/-- The text that characters came from. -/
def text (gs : List Glyph) : String := String.ofList (sourceChars gs)

/-- Characters without the blanks at the ends of lines; those at both ends of the whole stay, unless
`lineStart` says that a line begins there. -/
def dropMargins (lineStart : Bool) : List Glyph → List Glyph
  | [] => []
  | g :: gs =>
    if lineStart && isBlank g.char then dropMargins true gs
    else
      let rest := dropMargins (g.char == '\n') gs
      match rest with
      | h :: _ => if isBlank g.char && h.char == '\n' then rest else g :: rest
      | [] => [g]

/-- Where characters begin, or else a given point. -/
def startOf (gs : List Glyph) (p : Point) : Point := (gs.head?.map Glyph.start).getD p

/-- Where characters end, or else a given point. -/
def stopOf (gs : List Glyph) (p : Point) : Point := (gs.getLast?.map Glyph.stop).getD p

/-- The span of characters that are there. -/
def span (gs : List Glyph) : Position := ⟨startOf gs {}, stopOf gs {}⟩

end Glyph

/-- A line: its characters without the line end, where they stop, and the line end. The last line of a text
may have none. -/
structure Line where
  glyphs : List Glyph
  stop : Point
  ending : Option Glyph
deriving Inhabited

namespace Line

/-- Where the line after this one begins. -/
def next (l : Line) : Point := (l.ending.map Glyph.stop).getD l.stop

/-- Split characters that begin at a point into lines. Nothing stands behind the last line end. -/
def split (p : Point) : List Glyph → List Line
  | [] => []
  | g :: gs =>
    if g.char = '\n' then ⟨[], p, some g⟩ :: split g.stop gs
    else
      match split g.stop gs with
      | [] => [⟨[g], g.stop, none⟩]
      | l :: ls => { l with glyphs := g :: l.glyphs } :: ls

end Line

end LinkEmbed.Markdown
