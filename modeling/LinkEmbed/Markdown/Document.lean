import LinkEmbed.Document.Basic
import LinkEmbed.Markdown.Basic

/-!
# Markdown trees as documents

A document keeps the shape of the Markdown tree it comes from: every node becomes one node at the same path,
with the same place in the text, under the name of its kind. Paragraphs, links and texts are nodes of their
own; all others are generic, with their literal value and what there is to know for showing them.
-/

namespace LinkEmbed

namespace Markdown

/-- The name of a leaf's kind. -/
def Leaf.kind : Leaf → String
  | .text .. => "text"
  | .inlineCode .. => "inlineCode"
  | .inlineMath .. => "inlineMath"
  | .code .. => "code"
  | .math .. => "math"
  | .html .. => "html"
  | .yaml .. => "yaml"
  | .toml .. => "toml"
  | .hardBreak => "break"
  | .thematicBreak => "thematicBreak"
  | .image .. => "image"
  | .imageReference .. => "imageReference"
  | .footnoteReference => "footnoteReference"
  | .definition => "definition"
  | .expression .. => "mdx"

/-- The name of a branch's kind. -/
def Branch.kind : Branch → String
  | .root => "root"
  | .paragraph => "paragraph"
  | .heading .. => "heading"
  | .blockquote => "blockquote"
  | .list .. => "list"
  | .listItem => "listItem"
  | .footnoteDefinition => "footnoteDefinition"
  | .table => "table"
  | .tableRow => "tableRow"
  | .tableCell => "tableCell"
  | .emphasis => "emphasis"
  | .strong => "strong"
  | .delete => "delete"
  | .link .. => "link"
  | .linkReference => "linkReference"
  | .component .. => "mdx"

/-- The name of a node's kind. -/
def Node.kind : Node → String
  | .leaf l _ => l.kind
  | .branch b _ _ => b.kind

/-- The literal text of a leaf that is shown as it stands. -/
def Leaf.literal? : Leaf → Option String
  | .inlineCode v | .inlineMath v | .code _ v | .math v | .html v | .yaml v | .toml v => some v
  | .text .. | .hardBreak | .thematicBreak | .image .. | .imageReference .. | .footnoteReference
  | .definition | .expression .. => none

/-- What showing a leaf takes besides its kind and its literal text. -/
def Leaf.properties : Leaf → Properties
  | .code language _ => .ofList [("lang", .ofText? language)]
  | .image source alternative title =>
    .ofList [("src", .text source), ("alt", .text alternative), ("title", .ofText? title)]
  | _ => .empty

/-- What showing a branch takes besides its kind. -/
def Branch.properties : Branch → Properties
  | .heading depth => .ofList [("depth", .integer depth)]
  | .list ordered start => .ofList [("ordered", .bool ordered), ("start", .ofNat? start)]
  | _ => .empty

/-- A leaf as a node of a document. -/
def Leaf.toNode (l : Leaf) (position : Option Position) : LinkEmbed.Node :=
  match l with
  | .text value => .text position value
  | l => .generic ⟨l.kind, l.literal?, l.properties, position⟩ []

/-- A branch around nodes of a document. -/
def Branch.toNode (b : Branch) (position : Option Position) (content : List LinkEmbed.Node) :
    LinkEmbed.Node :=
  match b with
  | .paragraph => .paragraph position content
  | .link url title => .link { url, title, position } content
  | b => .generic ⟨b.kind, none, b.properties, position⟩ content

mutual

/-- A node of a tree as a node of a document. -/
def Node.toNode : Node → LinkEmbed.Node
  | .leaf l p => l.toNode p
  | .branch b p c => b.toNode p (Node.toNodes c)

/-- Nodes of a tree as nodes of a document. -/
def Node.toNodes : List Node → List LinkEmbed.Node
  | [] => []
  | n :: ns => n.toNode :: Node.toNodes ns

end

theorem Node.toNodes_eq_map (ns : List Node) : Node.toNodes ns = ns.map Node.toNode := by
  induction ns with
  | nil => rfl
  | cons n ns ih => simp [Node.toNodes, ih]

/-- A tree as a document. A node that is not a root becomes the only node of the document. -/
def Node.toDocument : Node → Document
  | .branch .root p c => ⟨Node.toNodes c, p⟩
  | n => ⟨[n.toNode], none⟩

end Markdown

end LinkEmbed
