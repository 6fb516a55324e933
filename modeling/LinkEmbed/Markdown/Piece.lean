import LinkEmbed.Markdown.Autolink
import LinkEmbed.Markdown.Basic
import LinkEmbed.Markdown.Component

/-!
# Pieces of a text

A text between its blocks is first cut into pieces: characters that stand for themselves, characters that
stand for others, line ends, and spans of pieces. What remains to be done then concerns neighbours: plain
characters are joined, blanks go at the ends of lines, mail addresses become links, and texts become one.
-/

namespace LinkEmbed.Markdown

/-- Neighbouring marks of emphasis or deletion. -/
structure Run where
  mark : Char
  glyphs : List Glyph
  opens : Bool
  closes : Bool
deriving Inhabited

/-- A piece of a text. -/
inductive Piece where
  | plain (glyphs : List Glyph)
  /-- Text that is written in another way. -/
  | written (value : String) (position : Position)
  | lineEnd (glyph : Glyph)
  | hardBreak (position : Position)
  | run (run : Run)
  | leaf (leaf : Leaf) (position : Position)
  | address (address : Address) (text : String) (inner outer : Position)
  | span (branch : Branch) (position : Position) (content : List Piece)
  /-- An image, with where it is to be found, unless a label says so. -/
  | image (target : Option (String × Option String)) (position : Position) (content : List Piece)
  | tag (tag : Tag) (position : Position)
deriving Inhabited

namespace Piece

/-- Put a piece before others, joined with the first if both are plain characters. -/
def consJoined (p : Piece) (ps : List Piece) : List Piece :=
  match p, ps with
  | .plain a, .plain b :: r => .plain (a ++ b) :: r
  | .run a, .plain b :: r => .plain (a.glyphs ++ b) :: r
  | .run a, r => .plain a.glyphs :: r
  | p, ps => p :: ps

/-- Join neighbouring plain characters; marks that mean nothing are plain characters too. -/
def join (ps : List Piece) : List Piece := ps.foldr consJoined []

/-- The piece is a line end. -/
def isLineEnd : Piece → Bool
  | .lineEnd _ => true
  | _ => false

/-- Blanks for which a line breaks: two or more, and no tab. -/
def breaks (gs : List Glyph) : Bool := 2 ≤ gs.length && gs.all fun g => g.source == [' ']

/-- Plain characters without the blanks at their ends where lines end or begin. Enough blanks at the end of a
line that goes on leave a break. -/
def trimPlain (atStart atEnd lineGoesOn : Bool) (gs : List Glyph) : List Piece :=
  let kept := if atEnd then Text.dropTrailing (fun g => isBlank g.char) gs else gs
  let dropped := gs.drop kept.length
  let shown := if atStart then kept.dropWhile fun g => isBlank g.char else kept
  let breakHere := if lineGoesOn && breaks dropped then [.hardBreak (Glyph.span dropped)] else []
  (if shown.isEmpty then [] else [.plain shown]) ++ breakHere

/-- Drop the blanks at the ends of lines. `atStart` says that a line begins before the pieces, and
`endsLine` that one ends behind them. -/
def trimLines (atStart endsLine : Bool) : List Piece → List Piece
  | [] => []
  | .plain gs :: ps =>
    let goesOn := (ps.head?.map isLineEnd).getD false
    trimPlain atStart (goesOn || (endsLine && ps.isEmpty)) goesOn gs ++ trimLines false endsLine ps
  | p :: ps => p :: trimLines p.isLineEnd endsLine ps

/-- A break takes the line end behind it. -/
def closeBreaks : List Piece → List Piece
  | [] => []
  | .hardBreak p :: .lineEnd g :: ps => .hardBreak ⟨p.start, g.stop⟩ :: closeBreaks ps
  | p :: ps => p :: closeBreaks ps

/-- Plain characters as a piece, unless there are none. -/
def ofPlain (gs : List Glyph) : List Piece := if gs.isEmpty then [] else [.plain gs]

/-- Cut mail addresses out of plain characters. `before` are the characters before, last first, and the first
`skip` characters belong to an address already cut out. -/
def cutMail (before : List Glyph) (skip : Nat) : List Glyph → List Piece
  | [] => ofPlain before.reverse
  | g :: gs =>
    match skip with
    | n + 1 => cutMail before n gs
    | 0 =>
      match if g.char = '@' then plainMail? (Glyph.chars before) (Glyph.chars gs) else none with
      | none => cutMail (g :: before) 0 gs
      | some (a, back, ahead) =>
        let found := (before.take back).reverse ++ g :: gs.take ahead
        let p := Glyph.span found
        ofPlain (before.drop back).reverse ++ .address a (Glyph.text found) p p :: cutMail [] ahead gs

/-- Cut mail addresses out of the plain characters of a list. -/
def cutMails (ps : List Piece) : List Piece :=
  ps.flatMap fun
    | .plain gs => cutMail [] 0 gs
    | p => [p]

/-- Tidy a list of pieces whose own content is tidy. -/
def tidy (mail atStart endsLine : Bool) (ps : List Piece) : List Piece :=
  let lines := closeBreaks (trimLines atStart endsLine (join ps))
  if mail then cutMails lines else lines

/-- The span is a link, in which mail addresses are no links. -/
def isLink : Branch → Bool
  | .link .. | .linkReference => true
  | _ => false

mutual

/-- Tidy what is inside a piece. -/
def tidyInside (mail : Bool) : Piece → Piece
  | .span b p c => .span b p (tidy (mail && !isLink b) false false (tidyInsideAll (mail && !isLink b) c))
  | .image t p c => .image t p (tidy mail false false (tidyInsideAll mail c))
  | p => p

/-- Tidy what is inside each of a list of pieces. -/
def tidyInsideAll (mail : Bool) : List Piece → List Piece
  | [] => []
  | p :: ps => tidyInside mail p :: tidyInsideAll mail ps

end

/-- Tidy a whole text. -/
def tidyAll (mail atStart : Bool) (ps : List Piece) : List Piece :=
  tidy mail atStart true (tidyInsideAll mail ps)

end Piece

/-- Nodes that are being put together, and the components that are open around them, innermost first, each
with what stands before it. All nodes are last first. -/
structure Assembly where
  nodes : List Node := []
  around : List (Tag × Position × List Node) := []

namespace Assembly

/-- Add a node. -/
def add (a : Assembly) (n : Node) : Assembly := { a with nodes := n :: a.nodes }

/-- Add text, to the text before if there is one. -/
def addText (a : Assembly) (value : String) (p : Position) : Assembly :=
  match a.nodes with
  | .leaf (.text v) (some q) :: ns => { a with nodes := .leaf (.text (v ++ value)) (some ⟨q.start, p.stop⟩) :: ns }
  | _ => a.add (.leaf (.text value) (some p))

/-- Take a tag: it opens a component, closes the one that is open, or does both. -/
def addTag (a : Assembly) (t : Tag) (p : Position) : Except Fault Assembly :=
  if t.selfClosing then .ok (a.add (.branch (.component t.name) (some p) []))
  else if t.closing then
    match a.around with
    | [] => .error (.unopenedTag t.name)
    | (o, q, before) :: around =>
      if o.name = t.name then
        .ok ⟨.branch (.component t.name) (some ⟨q.start, p.stop⟩) a.nodes.reverse :: before, around⟩
      else .error (.unclosedTag o.name)
  else .ok ⟨[], (t, p, a.nodes) :: a.around⟩

/-- The nodes, once no component is open. -/
def close (a : Assembly) : Except Fault (List Node) :=
  match a.around with
  | [] => .ok a.nodes.reverse
  | (t, _) :: _ => .error (.unclosedTag t.name)

end Assembly

namespace Piece

mutual

/-- Add a piece to an assembly. -/
def addTo (a : Assembly) : Piece → Except Fault Assembly
  | .plain gs => .ok (a.addText (Glyph.text gs) (Glyph.span gs))
  | .written v p => .ok (a.addText v p)
  | .lineEnd g => .ok (a.addText (String.ofList g.source) ⟨g.start, g.stop⟩)
  | .hardBreak p => .ok (a.add (.leaf .hardBreak (some p)))
  -- Runs that are left over are text.
  | .run r => .ok (a.addText (Glyph.text r.glyphs) (Glyph.span r.glyphs))
  | .leaf l p => .ok (a.add (.leaf l (some p)))
  | .address k text inner outer =>
    .ok (a.add (.branch (.link (k.destination text) none) (some outer) [.leaf (.text text) (some inner)]))
  | .span b p c => do
    let c ← (← addAll {} c).close
    .ok (a.add (.branch b (some p) c))
  | .image t p c => do
    -- What stands in an image is only its text.
    let text := Node.plainTextAll (← (← addAll {} c).close)
    match t with
    | some (source, title) => .ok (a.add (.leaf (.image source text title) (some p)))
    | none => .ok (a.add (.leaf (.imageReference text) (some p)))
  | .tag t p => a.addTag t p

/-- Add a list of pieces to an assembly. -/
def addAll (a : Assembly) : List Piece → Except Fault Assembly
  | [] => .ok a
  | p :: ps => do addAll (← addTo a p) ps

end

/-- The nodes of a tidy text. -/
def toNodes (ps : List Piece) : Except Fault (List Node) := do (← addAll {} ps).close

end Piece

end LinkEmbed.Markdown
