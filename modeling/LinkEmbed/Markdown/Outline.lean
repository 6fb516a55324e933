import LinkEmbed.Markdown.Block
import LinkEmbed.Markdown.Resource

/-!
# The outline of a text

A text is taken line by line. What a line belongs to is found from the outside in: the open containers that it
goes on in, the containers that it begins, and then the leaf that is open or that it begins (`Outline.step`).
A container that a line does not go on in ends with the line before, except that a line may go on with a
paragraph without the marks of its containers.
-/

namespace LinkEmbed.Markdown

/-- A leaf that is open. Lines come last first, without the marks of their containers. -/
inductive OpenLeaf where
  | nothing
  | paragraph (lines : List Line)
  /-- Code by indentation; `blank` are lines that belong to it only if it goes on. -/
  | indented (start : Point) (lines blank : List Line)
  | fenced (fence : Fence) (start : Point) (lines : List Line)
  | html (kind : HtmlKind) (start : Point) (lines : List Line)
  | table (start stop : Point) (rows : List Row)
  /-- Components that are not complete yet. -/
  | components (lines : List Line)
deriving Inhabited

/-- The characters of lines, last first, with the line ends between them. -/
def joinLines (lines : List Line) : List Glyph :=
  match lines with
  | [] => []
  | l :: ls => (ls.reverse.flatMap fun l => l.glyphs ++ l.ending.toList) ++ l.glyphs

/-- The text of lines, last first, with the line ends between them and, if asked for, behind the last. -/
def linesText (withLast : Bool) (lines : List Line) : String :=
  let last := if withLast then (lines.head?.bind Line.ending).toList else []
  (lines.reverse.foldl (fun (s, ending) l => (s ++ ending ++ Glyph.text l.glyphs, Glyph.text l.ending.toList))
    ("", "")).1 ++ Glyph.text last

/-- A text without a line end at its end. -/
def dropLastLineEnd (s : String) : String :=
  String.ofList (match s.toList.reverse with
    | '\n' :: '\r' :: r => r.reverse
    | '\n' :: r => r.reverse
    | '\r' :: r => r.reverse
    | r => r.reverse)

/-- A text without a line end at its start. -/
def dropFirstLineEnd (s : String) : String :=
  String.ofList (match s.toList with
    | '\r' :: '\n' :: r => r
    | '\n' :: r => r
    | '\r' :: r => r
    | r => r)

/-- The blocks of a paragraph's lines: the definitions that they begin with, and the rest. -/
def paragraphBlocks (fuel : Nat) (gs : List Glyph) : List Block :=
  match fuel with
  | 0 => []
  | fuel + 1 =>
    if gs.isEmpty then []
    else
      match Definition.read? (Glyph.chars gs) with
      | some d =>
        .definition (foldLabel (Glyph.sourceChars (d.label.take gs))) (Glyph.span (gs.take d.size)) ::
          paragraphBlocks fuel (gs.drop (d.size + 1))
      | none => [.paragraph gs]

/-- The blocks of a paragraph's lines. -/
def blocksOfLines (lines : List Line) : List Block :=
  let gs := joinLines lines
  paragraphBlocks (gs.length + 1) gs

/-- The blocks of components that have been read. -/
def componentBlocks (gs : List Glyph) (parts : List (ComponentPart × Extent)) : List Block :=
  parts.map fun (part, e) =>
    let inner := e.take gs
    match part with
    | .tag t => .tag t (Glyph.span inner)
    | .expression => .leaf (.expression (Glyph.text (inner.drop 1).dropLast)) (Glyph.span inner)

namespace OpenLeaf

/-- No container begins inside the leaf. -/
def isSolid : OpenLeaf → Bool
  | .fenced .. | .html .. | .components .. => true
  | .nothing | .paragraph .. | .indented .. | .table .. => false

/-- The leaf is a paragraph, which some blocks do not interrupt. -/
def isParagraph : OpenLeaf → Bool
  | .paragraph .. => true
  | _ => false

/-- The blocks of a leaf that ends, and where they stop. With `cut` the leaf is cut off by the end of the text
or by another container; if it could go on, the last line end is then part of it. -/
def close (cut : Bool) (leaf : OpenLeaf) : Except Fault (List Block × Option Point) :=
  let stopOf (lines : List Line) : Point := (lines.head?.map Line.stop).getD {}
  match leaf with
  | .nothing => .ok ([], none)
  | .paragraph lines => .ok (blocksOfLines lines, none)
  | .indented start lines _ =>
    -- Blank lines at the end are no part of the code.
    .ok ([.leaf (.code none (dropLastLineEnd (linesText false lines))) ⟨start, stopOf lines⟩], none)
  | .fenced f start lines =>
    let stop := if cut then (lines.head?.map Line.next).getD {} else stopOf lines
    let value := dropLastLineEnd (dropFirstLineEnd (linesText cut lines))
    .ok ([.leaf (f.leaf value) ⟨start, stop⟩], if cut then some stop else none)
  | .html kind start lines =>
    let cut := cut && !kind.untilBlank
    let stop := if cut then (lines.head?.map Line.next).getD {} else stopOf lines
    .ok ([.leaf (.html (linesText cut lines)) ⟨start, stop⟩], if cut then some stop else none)
  | .table start stop rows => .ok ([.table ⟨start, stop⟩ rows.reverse], none)
  | .components _ => .error (if cut then .unclosedExpression else .outsideContainer)

end OpenLeaf

/-- What a line comes to: blocks that are complete, and a leaf that is open. -/
structure Progress where
  blocks : List Block := []
  leaf : OpenLeaf := .nothing
deriving Inhabited

/-- A leaf that a line begins, other than a paragraph and code by indentation. -/
def startLeaf? (x : Extensions) (interrupting : Bool) (line : Line) : Except Fault (Option Progress) :=
  let gs := line.glyphs
  let whole : Position := ⟨Glyph.startOf gs line.stop, line.stop⟩
  match behindIndent? x gs with
  | none | some [] => .ok none
  | some (g :: r) =>
    -- A fence is tried first, and a rule last.
    match fence? x (indentOf gs) (g :: r) with
    | some f => .ok (some { leaf := .fenced f g.start [{ line with glyphs := [] }] })
    | none =>
      if x.components ∧ (g.char = '<' ∨ g.char = '\x7b') then
        match readComponents (r.length + 2) 0 (Glyph.chars (g :: r)) with
        | .none => .ok none
        | .fault f => .error f
        -- A component may go on in the next line.
        | .incomplete => .ok (some { leaf := .components [{ line with glyphs := g :: r }] })
        | .found parts _ => .ok (some { blocks := componentBlocks (g :: r) parts })
      else if g.char = '<' then
        match htmlBlock? interrupting (Glyph.chars r) with
        | some (_, true) => .ok (some { blocks := [.leaf (.html (Glyph.text gs)) whole] })
        | some (k, false) => .ok (some { leaf := .html k whole.start [line] })
        | none => .ok none
      else
        match heading? (g :: r) with
        | some (depth, text) => .ok (some { blocks := [.heading depth whole text] })
        | none =>
          if isThematicBreak (g :: r) then .ok (some { blocks := [.leaf .thematicBreak whole] })
          else .ok none

/-- A line that goes on with nothing before it. -/
def beginLine (x : Extensions) (line : Line) : Except Fault Progress :=
  if isBlankLine line.glyphs then .ok {}
  else if !x.components ∧ Glyph.tabStop ≤ indentOf line.glyphs then
    .ok { leaf := .indented (Glyph.startOf line.glyphs line.stop)
            [{ line with glyphs := line.glyphs.drop Glyph.tabStop }] [] }
  else
    match startLeaf? x false line with
    | .error f => .error f
    | .ok (some p) => .ok p
    | .ok none => .ok { leaf := .paragraph [line] }

/-- A line behind a leaf that has ended. -/
def afterLeaf (x : Extensions) (leaf : OpenLeaf) (line : Line) : Except Fault Progress := do
  let (blocks, _) ← leaf.close false
  let p ← beginLine x line
  return { p with blocks := blocks ++ p.blocks }

/-- A line under a paragraph that makes it a heading. A paragraph of definitions alone is none; the line is then
a paragraph itself. -/
def underlined (lines : List Line) (depth : Nat) (line : Line) : Progress :=
  let blocks := blocksOfLines lines
  match blocks.getLast? with
  | some (.paragraph text) =>
    { blocks := blocks.dropLast ++ [.heading depth ⟨Glyph.startOf text {}, line.stop⟩ text] }
  | _ => { blocks, leaf := .paragraph [line] }

/-- A line under a paragraph that makes its last line the head of a table. -/
def tableUnder? (x : Extensions) (lines : List Line) (line : Line) : Option Progress :=
  match lines with
  | [] => none
  | head :: before =>
    let row := Row.ofGlyphs head.glyphs
    if x.github ∧ isTableHead head.glyphs ∧ alignments? line.glyphs = some row.cells.length then
      some { blocks := blocksOfLines before, leaf := .table row.position.start line.stop [row] }
    else none

/-- A line under a paragraph. -/
def underParagraph (x : Extensions) (lines : List Line) (line : Line) : Except Fault Progress :=
  if isBlankLine line.glyphs then .ok { blocks := blocksOfLines lines }
  else
    match underline? x line.glyphs with
    | some depth => .ok (underlined lines depth line)
    | none =>
      match tableUnder? x lines line with
      | some p => .ok p
      | none => do
        match ← startLeaf? x true line with
        | some p => return { p with blocks := blocksOfLines lines ++ p.blocks }
        | none => return { leaf := .paragraph (line :: lines) }

/-- A line that goes on with the open leaf. -/
def goOn (x : Extensions) (leaf : OpenLeaf) (line : Line) : Except Fault Progress :=
  let gs := line.glyphs
  match leaf with
  | .nothing => beginLine x line
  | .paragraph lines => underParagraph x lines line
  | .indented start lines blank =>
    let rest := { line with glyphs := gs.drop Glyph.tabStop }
    -- The code goes on, so the blank lines before this one belong to it.
    if Glyph.tabStop ≤ indentOf gs then .ok { leaf := .indented start (rest :: blank ++ lines) [] }
    else if isBlankLine gs then .ok { leaf := .indented start lines ({ line with glyphs := [] } :: blank) }
    else afterLeaf x leaf line
  | .fenced f start lines =>
    if f.isClosedBy x gs then
      let value := dropLastLineEnd (dropFirstLineEnd (linesText true lines))
      .ok { blocks := [.leaf (f.leaf value) ⟨start, line.stop⟩] }
    else
      -- A line loses as much indentation as the fence has.
      let inner := { line with glyphs := gs.drop (min f.indent (indentOf gs)) }
      .ok { leaf := .fenced f start (inner :: lines) }
  | .html kind start lines =>
    if kind.untilBlank ∧ isBlankLine gs then afterLeaf x leaf line
    else if kind.endsIn (Glyph.chars gs) then
      .ok { blocks := [.leaf (.html (linesText false (line :: lines))) ⟨start, line.stop⟩] }
    else .ok { leaf := .html kind start (line :: lines) }
  | .table start _ rows =>
    if isBlankLine gs ∨ (!x.components ∧ Glyph.tabStop ≤ indentOf gs) then afterLeaf x leaf line
    else do
      match ← startLeaf? x false line with
      | some _ => afterLeaf x leaf line
      | none => return { leaf := .table start line.stop (Row.ofGlyphs gs :: rows) }
  | .components lines =>
    let lines := line :: lines
    -- Components are read again from their first line on, with one line more.
    let all := joinLines lines
    match readComponents (all.length + 1) 0 (Glyph.chars all) with
    | .none => .ok { leaf := .paragraph lines }
    | .fault f => .error f
    | .incomplete => .ok { leaf := .components lines }
    | .found parts _ => .ok { blocks := componentBlocks all parts }

/-! ## Containers around leaves -/

/-- An open container with the blocks in it so far, last first. -/
structure Frame where
  container : Container
  start : Point
  content : List Block

/-- A text that is being read: the open containers, innermost first; the blocks outside all of them, last first;
the open leaf; and where the last line stopped. -/
structure Outline where
  frames : List Frame := []
  blocks : List Block := []
  leaf : OpenLeaf := .nothing
  previous : Point := Glyph.origin

namespace Outline

/-- Add blocks to the innermost container. -/
def add (o : Outline) (bs : List Block) : Outline :=
  match o.frames with
  | [] => { o with blocks := bs.reverse ++ o.blocks }
  | f :: fs => { o with frames := { f with content := bs.reverse ++ f.content } :: fs }

/-- Close innermost containers at a point. -/
def closeFrames (stop : Point) (o : Outline) : Nat → Outline
  | 0 => o
  | n + 1 =>
    match o.frames with
    | [] => o
    | f :: fs =>
      closeFrames stop
        (({ o with frames := fs } : Outline).add [f.container.toBlock ⟨f.start, stop⟩ f.content.reverse]) n

/-- The containers, outermost first, that a line goes on in, innermost first, and the rest of the line. -/
def continueFrames (x : Extensions) (kept : List Frame) (gs : List Glyph) : List Frame → List Frame × List Glyph
  | [] => (kept, gs)
  | f :: fs =>
    match f.container.continue? x gs with
    | some (c, r) => continueFrames x ({ f with container := c } :: kept) r fs
    | none => (kept, gs)

/-- The containers that a line begins, innermost first, and the rest of the line. -/
def openFrames (x : Extensions) (stop : Point) (interrupting : Bool) (opened : List Frame) :
    Nat → List Glyph → List Frame × List Glyph
  | 0, gs => (opened, gs)
  | fuel + 1, gs =>
    match container? x interrupting gs with
    | some (c, r) => openFrames x stop false (⟨c, Glyph.startOf gs stop, []⟩ :: opened) fuel r
    | none => (opened, gs)

/-- Close the leaf, and then all containers but the outermost `n`. -/
def closeTo (o : Outline) (cut : Bool) (n : Nat) : Except Fault Outline := do
  let (blocks, stop) ← o.leaf.close cut
  let o := ({ o with leaf := .nothing } : Outline).add blocks
  return closeFrames (stop.getD o.previous) o (o.frames.length - n)

/-- Note what a line comes to. -/
def advance (o : Outline) (p : Progress) : Outline := { (o.add p.blocks) with leaf := p.leaf }

/-- The line goes on with a paragraph without the marks of its containers. -/
def isLazy (x : Extensions) (leaf : OpenLeaf) (line : Line) : Except Fault Bool :=
  if leaf.isParagraph ∧ !isBlankLine line.glyphs then do return (← startLeaf? x false line).isNone
  else .ok false

/-- Take a line behind its containers `kept`, all of which it goes on in. -/
def takeRest (x : Extensions) (o : Outline) (kept : List Frame) (line : Line) : Except Fault Outline := do
  let n := kept.length
  if n = o.frames.length then
    return ({ o with frames := kept } : Outline).advance (← goOn x o.leaf line)
  -- The containers that the line leaves out stay open all the same.
  else if ← isLazy x o.leaf line then
    match o.leaf with
    | .paragraph lines => return { o with leaf := .paragraph (line :: lines) }
    | _ => return o
  else
    let o ← closeTo o false n
    return ({ o with frames := kept.zipWith (fun k f => { k with content := f.content }) o.frames } : Outline).advance
      (← beginLine x line)

/-- Take a line. -/
def step (x : Extensions) (o : Outline) (line : Line) : Except Fault Outline := do
  let (kept, gs) := continueFrames x [] line.glyphs o.frames.reverse
  let all := kept.length == o.frames.length
  let (opened, rest) :=
    -- Inside such a leaf the marks of containers are plain text.
    if all && o.leaf.isSolid then ([], gs)
    else openFrames x line.stop (all && o.leaf.isParagraph) [] (gs.length + 1) gs
  let line := { line with glyphs := rest }
  let o ←
    if opened.isEmpty then takeRest x o kept line
    else do
      let o ← closeTo o (!all) kept.length
      let frames := kept.zipWith (fun k f => { k with content := f.content }) o.frames
      pure (({ o with frames := opened ++ frames } : Outline).advance (← beginLine x line))
  return { o with previous := line.stop }

/-- The blocks of lines. -/
def ofLines (x : Extensions) (lines : List Line) : Except Fault (List Block) := do
  let o ← lines.foldlM (step x) {}
  return (← closeTo o true 0).blocks.reverse

end Outline

end LinkEmbed.Markdown
