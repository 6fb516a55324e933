import LinkEmbed.Markup.Basic
import LinkEmbed.Position

/-!
# Documents

The tree of a document as far as links are concerned: paragraphs, links, text, and all other kinds of nodes
by name. A link keeps its destination as written; an embed, once one is committed, stands beside it.
-/

namespace LinkEmbed

/-- The markup that replaces a link: a tag, its properties and its content. -/
structure Embed where
  tag : String
  properties : Properties
  children : List Markup
deriving DecidableEq, Inhabited

/-- What a link says apart from its content. A `hint` other than `a` keeps it from being embedded. -/
structure Anchor where
  url : String
  title : Option String := none
  hint : Option String := none
  properties : Properties := .empty
  embed : Option Embed := none
  position : Option Position := none
deriving DecidableEq, Inhabited

namespace Anchor

/-- The link may stay a plain anchor: it has no hint, or the hint `a`. -/
def rendersAsAnchor (a : Anchor) : Bool :=
  match a.hint with
  | none => true
  | some tag => tag == "a"

/-- Replace the link by an embed, whose properties go over the link's own. -/
def commit (a : Anchor) (tag : String) (properties : Properties) (children : List Markup) : Anchor :=
  { a with embed := some ⟨tag, a.properties.merge properties, children⟩ }

/-- Whether an embed replaces the link. -/
def isEmbedded (a : Anchor) : Bool := a.embed.isSome

/-- The line the link starts on. -/
def line? (a : Anchor) : Option Nat := a.position.map Position.startLine

end Anchor

/-- What a node of another kind says apart from its content: the name of its kind, a literal text, and
fields such as the depth of a heading. -/
structure Generic where
  kind : String
  value : Option String := none
  properties : Properties := .empty
  position : Option Position := none
deriving DecidableEq, Inhabited

/-- A node of a document. -/
inductive Node where
  | paragraph (position : Option Position) (content : List Node)
  | link (anchor : Anchor) (content : List Node)
  | text (position : Option Position) (value : String)
  | generic (info : Generic) (content : List Node)

instance : Inhabited Node := ⟨.text none ""⟩

/-- A link with its content. -/
structure Link extends Anchor where
  content : List Node

namespace Node

/-- A link whose content is its own destination, as an address in pointed brackets reads. -/
def autolink (url : String) (position : Option Position) : Node :=
  .link { url, position } [.text none url]

/-- The name of the node's kind. -/
def kind : Node → String
  | .paragraph .. => "paragraph"
  | .link .. => "link"
  | .text .. => "text"
  | .generic info _ => info.kind

/-- The nodes inside; a text has none to speak of. -/
def content? : Node → Option (List Node)
  | .paragraph _ c => some c
  | .link _ c => some c
  | .text .. => none
  | .generic _ c => some c

/-- The nodes inside. -/
def content (n : Node) : List Node := n.content?.getD []

/-- The node with other nodes inside; a text stays as it is. -/
def withContent (c : List Node) : Node → Node
  | .paragraph p _ => .paragraph p c
  | .link a _ => .link a c
  | .text p v => .text p v
  | .generic i _ => .generic i c

/-- Change what a link says apart from its content; what is no link stays. -/
def mapAnchor (f : Anchor → Anchor) : Node → Node
  | .link a c => .link (f a) c
  | n => n

/-- The node's place in the source. -/
def position? : Node → Option Position
  | .paragraph p _ => p
  | .link a _ => a.position
  | .text p _ => p
  | .generic i _ => i.position

/-- The link a node is. -/
def link? : Node → Option Link
  | .link a c => some { a with content := c }
  | _ => none

end Node

/-- The content is exactly one text, the destination itself. -/
def Link.isBare (l : Link) : Bool :=
  l.rendersAsAnchor &&
    match l.content with
    | [.text _ value] => value == l.url
    | _ => false

/-- A document: its nodes at the top, and the span of the whole. -/
structure Document where
  nodes : List Node
  position : Option Position := none

instance : Inhabited Document := ⟨⟨[], none⟩⟩

end LinkEmbed
