import LinkEmbed.Html.Lexer

/-!
# Trees of HTML

The nodes of a page while it is read and afterwards. A node is a number, counting nodes in the order in
which they came to be; a node may be moved and taken out, so parents and children are written down on both
sides.
-/

namespace LinkEmbed.Html

/-- The vocabularies that elements of a page come from. -/
inductive Vocabulary where
  | html
  | svg
  | math
deriving DecidableEq, Repr, Inhabited

/-- The name of an element: a vocabulary, and a name in it. -/
structure TagName where
  vocabulary : Vocabulary
  name : String
deriving DecidableEq, Repr, Inhabited

/-- A name of HTML itself. -/
def TagName.html (name : String) : TagName := ⟨.html, name⟩

/-- An attribute. Some attributes of other vocabularies have a label before their name. -/
structure Attribute where
  label : Option String := none
  name : String
  value : String
deriving DecidableEq, Repr, Inhabited

/-- What a node is. A fragment holds the content of a template. -/
inductive NodeKind where
  | document
  | fragment
  | element (name : TagName) (attributes : List Attribute)
  | text (value : String)
  | comment (value : String)
deriving DecidableEq, Repr, Inhabited

/-- A node with its place among the others. -/
structure TreeNode where
  kind : NodeKind
  parent : Option Nat := none
  children : Array Nat := #[]
deriving Inhabited

/-- All nodes, in the order in which they came to be. -/
structure Tree where
  nodes : Array TreeNode := #[]

instance : Inhabited Tree := ⟨{}⟩

namespace Tree

/-- A node. -/
def node (t : Tree) (i : Nat) : TreeNode := t.nodes[i]?.getD ⟨.fragment, none, #[]⟩

/-- The name of an element. -/
def name? (t : Tree) (i : Nat) : Option TagName :=
  match (t.node i).kind with
  | .element name _ => some name
  | _ => none

/-- Change a node. -/
def modify (t : Tree) (i : Nat) (f : TreeNode → TreeNode) : Tree := ⟨t.nodes.modify i f⟩

/-- A new node without a place; its number is the number of nodes before. -/
def add (t : Tree) (kind : NodeKind) : Tree := ⟨t.nodes.push { kind }⟩

/-- The number that the next new node gets. -/
def size (t : Tree) : Nat := t.nodes.size

/-- Take a node out of its place. -/
def detach (t : Tree) (i : Nat) : Tree :=
  match (t.node i).parent with
  | none => t
  | some p =>
    (t.modify p fun n => { n with children := n.children.filter (· != i) }).modify i fun n =>
      { n with parent := none }

/-- Put a node without a place behind the other children of a parent. -/
def append (t : Tree) (parent i : Nat) : Tree :=
  (t.modify parent fun n => { n with children := n.children.push i }).modify i fun n =>
    { n with parent := some parent }

/-- Put a node without a place before another child of a parent. -/
def insertBefore (t : Tree) (parent i sibling : Nat) : Tree :=
  let place (cs : Array Nat) : Array Nat :=
    let before := cs.toList.takeWhile (· != sibling)
    let after := cs.toList.dropWhile (· != sibling)
    (before ++ i :: after).toArray
  (t.modify parent fun n => { n with children := place n.children }).modify i fun n =>
    { n with parent := some parent }

/-- The child that stands before another. -/
def before? (t : Tree) (parent sibling : Nat) : Option Nat :=
  ((t.node parent).children.toList.takeWhile (· != sibling)).getLast?

/-- Move all children of a node to another. -/
def moveChildren (t : Tree) (source target : Nat) : Tree :=
  (t.node source).children.foldl (fun t c => (t.detach c).append target c) t

/-- The fragment that holds the content of a template. -/
def content? (t : Tree) (i : Nat) : Option Nat :=
  (t.node i).children.toList.find? fun c => (t.node c).kind == .fragment

/-- Where a new node goes: into a parent behind the others, or before a sibling. -/
inductive Place where
  | lastOf (parent : Nat)
  | before (parent sibling : Nat)
deriving DecidableEq, Repr

/-- Put a node without a place. -/
def put (t : Tree) (i : Nat) : Place → Tree
  | .lastOf p => t.append p i
  | .before p s => t.insertBefore p i s

/-- Add text at a place: to the text that stands there, or as a new node. -/
def putText (t : Tree) (c : Char) (place : Place) : Tree :=
  let neighbour := match place with
    | .lastOf p => (t.node p).children.back?
    | .before p s => t.before? p s
  -- Text joins the text before it.
  let isText := match neighbour with
    | some i => match (t.node i).kind with
      | .text _ => true
      | _ => false
    | none => false
  match neighbour, isText with
  | some i, true =>
    t.modify i fun n =>
      match n with
      | ⟨.text s, p, cs⟩ => ⟨.text (s.push c), p, cs⟩
      | n => n
  | _, _ => (t.add (.text (String.singleton c))).put t.size place

end Tree

end LinkEmbed.Html
