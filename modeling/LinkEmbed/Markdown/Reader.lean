import LinkEmbed.EmbedError
import LinkEmbed.Markdown.Document
import LinkEmbed.Markdown.Inline
import LinkEmbed.Markdown.Outline

/-!
# Reading Markdown

The outline of a text comes first, since a label may be defined anywhere. Then the texts in its blocks are read,
items that follow each other become lists, and tags of components are matched (`read`). Only a text with
components can be at fault.
-/

namespace LinkEmbed.Markdown

/-! ## Labels -/

mutual

/-- The labels that are defined in a block. -/
def Block.definitions : Block → List (List Char)
  | .quote _ c | .item _ _ _ c | .footnote _ _ c => Block.definitionsAll c
  | .definition label _ => [label]
  | .paragraph _ | .heading .. | .table .. | .leaf .. | .tag .. => []

/-- The labels that are defined in a list of blocks. -/
def Block.definitionsAll : List Block → List (List Char)
  | [] => []
  | b :: bs => b.definitions ++ Block.definitionsAll bs

end

mutual

/-- The labels of the footnotes in a block. -/
def Block.footnotes : Block → List (List Char)
  | .footnote label _ c => label :: Block.footnotesAll c
  | .quote _ c | .item _ _ _ c => Block.footnotesAll c
  | .paragraph _ | .heading .. | .table .. | .definition .. | .leaf .. | .tag .. => []

/-- The labels of the footnotes in a list of blocks. -/
def Block.footnotesAll : List Block → List (List Char)
  | [] => []
  | b :: bs => b.footnotes ++ Block.footnotesAll bs

end

/-! ## Nodes of blocks -/

/-- What a block becomes: a node, an item of a list that is still to be made, or a tag. -/
inductive Entry where
  | node (node : Node)
  | item (mark : Char) (number : Option Nat) (position : Position) (content : List Node)
  | tag (tag : Tag) (position : Position)

namespace Entry

/-- A list: the mark and the span of its items, its first number, and its items, last first. -/
structure Items where
  mark : Char
  number : Option Nat
  position : Position
  items : List Node

/-- The node of a list. -/
def Items.node (i : Items) : Node :=
  .branch (.list i.number.isSome i.number) (some i.position) i.items.reverse

/-- Add a list under way to an assembly. -/
def flush (a : Assembly) : Option Items → Assembly
  | none => a
  | some i => a.add i.node

/-- Add entries to an assembly behind a list under way. Items with the same mark go to one list. -/
def assemble (a : Assembly) (items : Option Items) : List Entry → Except Fault Assembly
  | [] => .ok (flush a items)
  | .node n :: es => assemble ((flush a items).add n) none es
  | .tag t p :: es => do assemble (← (flush a items).addTag t p) none es
  | .item mark number p c :: es =>
    let item : Node := .branch .listItem (some p) c
    match items with
    | some i =>
      if i.mark = mark then
        assemble a (some { i with position := ⟨i.position.start, p.stop⟩, items := item :: i.items }) es
      else assemble (a.add i.node) (some ⟨mark, number, p, [item]⟩) es
    | none => assemble a (some ⟨mark, number, p, [item]⟩) es

/-- The nodes of entries. -/
def toNodes (es : List Entry) : Except Fault (List Node) := do (← assemble {} none es).close

end Entry

/-- The nodes of a row of a table. -/
def Row.toNode (cx : Context) (r : Row) : Except Fault Node := do
  let cells ← r.cells.mapM fun c => do
    return Node.branch .tableCell (some c.position) (← readText { cx with inTable := true } c.text)
  return .branch .tableRow (some r.position) cells

/-- The first text of an item, which may be a task. -/
def taskNode (cx : Context) (gs : List Glyph) : Except Fault Node := do
  let p := Glyph.span gs
  let (nodes, start) ← readTask cx gs
  return .branch .paragraph (some ⟨start.getD p.start, p.stop⟩) nodes

mutual

/-- What a block becomes. -/
def Block.toEntry (cx : Context) : Block → Except Fault Entry
  | .quote p c => do return .node (.branch .blockquote (some p) (← Entry.toNodes (← Block.toEntries cx c)))
  | .footnote _ p c => do
    return .node (.branch .footnoteDefinition (some p) (← Entry.toNodes (← Block.toEntries cx c)))
  | .item mark number p (.paragraph gs :: bs) => do
    -- The first paragraph of an item may begin with a box to tick.
    let first ← taskNode cx gs
    return .item mark number p (← Entry.toNodes (.node first :: (← Block.toEntries cx bs)))
  | .item mark number p c => do return .item mark number p (← Entry.toNodes (← Block.toEntries cx c))
  | .paragraph gs => do
    return .node (.branch .paragraph (some (Glyph.span gs)) (← readText cx gs))
  | .heading depth p gs => do return .node (.branch (.heading depth) (some p) (← readText cx gs))
  | .table p rows => do return .node (.branch .table (some p) (← rows.mapM (Row.toNode cx)))
  | .definition _ p => .ok (.node (.leaf .definition (some p)))
  | .leaf l p => .ok (.node (.leaf l (some p)))
  | .tag t p => .ok (.tag t p)

/-- What each of a list of blocks becomes. -/
def Block.toEntries (cx : Context) : List Block → Except Fault (List Entry)
  | [] => .ok []
  | b :: bs => do return (← b.toEntry cx) :: (← Block.toEntries cx bs)

end

/-! ## Data in front of a text -/

/-- The line is a fence of data in front of a text. -/
def isFrontFence (mark : Char) (l : Line) : Bool :=
  let cs := Text.dropTrailing isBlank (Glyph.chars l.glyphs)
  cs == [mark, mark, mark]

/-- Data in front of a text, and the lines behind it. The lines before the closing fence are given last
first. -/
def closeFront? (mark : Char) (start : Point) (before : List Line) : List Line → Option (Block × List Line)
  | [] => none
  | l :: ls =>
    if isFrontFence mark l then
      let value := dropLastLineEnd (dropFirstLineEnd (linesText true before))
      let leaf : Leaf := if mark = '+' then .toml value else .yaml value
      some (.leaf leaf ⟨start, l.stop⟩, ls)
    else closeFront? mark start (l :: before) ls

/-- Data that a text begins with, and the lines behind it. -/
def front? : List Line → Option (Block × List Line)
  | [] => none
  | l :: ls =>
    match l.glyphs with
    | [] => none
    | g :: _ =>
      if (g.char = '-' ∨ g.char = '+') ∧ isFrontFence g.char l then
        closeFront? g.char g.start [{ l with glyphs := [] }] ls
      else none

/-! ## Whole texts -/

/-- The characters of a text. A mark of the byte order in front takes room but means nothing. -/
def shownGlyphs (source : String) : List Glyph :=
  match Glyph.ofText source with
  | g :: gs => if g.char = '\uFEFF' then gs else g :: gs
  | [] => []

/-- The tree of a text. -/
def read (x : Extensions) (source : String) : Except Fault Node := do
  let gs := Glyph.ofText source
  let shown := shownGlyphs source
  let lines := Line.split (Glyph.startOf shown (Glyph.stopOf gs Glyph.origin)) shown
  let (front, lines) := match if x.frontmatter then front? lines else none with
    | some (b, ls) => ([b], ls)
    | none => ([], lines)
  let blocks := front ++ (← Outline.ofLines x lines)
  let cx : Context :=
    { extensions := x, definitions := Block.definitionsAll blocks, footnotes := Block.footnotesAll blocks }
  let nodes ← Entry.toNodes (← Block.toEntries cx blocks)
  return .branch .root (some ⟨Glyph.origin, Glyph.stopOf gs Glyph.origin⟩) nodes

end LinkEmbed.Markdown

namespace LinkEmbed

/-- The document that a Markdown text is, with the forms in common use. -/
def Document.ofMarkdown (source : String) : Except EmbedError Document :=
  match Markdown.read .common source with
  | .ok n => .ok n.toDocument
  | .error f => .error (.markdown f.message)

end LinkEmbed
