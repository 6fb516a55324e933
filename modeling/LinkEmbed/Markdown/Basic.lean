import LinkEmbed.Position

/-!
# Markdown trees

What a Markdown text consists of. A node either holds other nodes (`Branch`) or it does not (`Leaf`), and
either may know its place in the text. The sum of all text below a node is `Node.plainText`.
-/

namespace LinkEmbed.Markdown

/-- A node without content of its own. -/
inductive Leaf where
  | text (value : String)
  | inlineCode (value : String)
  | inlineMath (value : String)
  | code (language : Option String) (value : String)
  | math (value : String)
  | html (value : String)
  | yaml (value : String)
  | toml (value : String)
  | hardBreak
  | thematicBreak
  | image (source alternative : String) (title : Option String)
  | imageReference (alternative : String)
  | footnoteReference
  | definition
  | expression (value : String)
deriving DecidableEq, Inhabited

/-- A node with content. -/
inductive Branch where
  | root
  | paragraph
  | heading (depth : Nat)
  | blockquote
  | list (ordered : Bool) (start : Option Nat)
  | listItem
  | footnoteDefinition
  | table
  | tableRow
  | tableCell
  | emphasis
  | strong
  | delete
  | link (url : String) (title : Option String)
  | linkReference
  | component (name : String)
deriving DecidableEq, Inhabited

/-- A node of a tree. -/
inductive Node where
  | leaf (leaf : Leaf) (position : Option Position)
  | branch (branch : Branch) (position : Option Position) (content : List Node)
deriving Inhabited

/-- The text that a leaf reads as. -/
def Leaf.plainText : Leaf → String
  | .text v | .inlineCode v | .inlineMath v | .code _ v | .math v | .html v | .yaml v | .toml v
  | .expression v => v
  | .hardBreak | .thematicBreak | .image .. | .imageReference .. | .footnoteReference | .definition => ""

namespace Node

/-- The node's place in the text. -/
def position? : Node → Option Position
  | .leaf _ p => p
  | .branch _ p _ => p

/-- The nodes inside; a leaf has none to speak of. -/
def content? : Node → Option (List Node)
  | .leaf .. => none
  | .branch _ _ c => some c

/-- The nodes inside. -/
def content (n : Node) : List Node := n.content?.getD []

/-- The node that a path of indices leads to. -/
def at? (n : Node) : List Nat → Option Node
  | [] => some n
  | i :: path => n.content[i]?.bind fun c => c.at? path

mutual

/-- All text below a node. -/
def plainText : Node → String
  | .leaf l _ => l.plainText
  | .branch _ _ c => plainTextAll c

/-- All text below a list of nodes. -/
def plainTextAll : List Node → String
  | [] => ""
  | n :: ns => n.plainText ++ plainTextAll ns

end

end Node

end LinkEmbed.Markdown
