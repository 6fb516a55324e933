import LinkEmbed.Document.Basic

/-!
# Walking a document

The nodes of a document in document order, by an explicit stack of pending nodes, one node at a time (`Walker`) or
all of them (`walk`), and by recursion on the tree (`preorder`); the links in it, and visits of them; and the links
that may be embedded. Places in a document are paths of child indices, so a change at one place is a function on the
tree.
-/

namespace LinkEmbed

/-- The way down to a node: the index at the top, then in its content, and so on. -/
abbrev Path := List Nat

mutual

/-- The number of nodes at and below a node. -/
def Node.count : Node → Nat
  | .paragraph _ c => 1 + Node.countAll c
  | .link _ c => 1 + Node.countAll c
  | .text .. => 1
  | .generic _ c => 1 + Node.countAll c

/-- The number of nodes at and below a list of nodes. -/
def Node.countAll : List Node → Nat
  | [] => 0
  | n :: r => n.count + Node.countAll r

end

theorem Node.countAll_append (a b : List Node) :
    Node.countAll (a ++ b) = Node.countAll a + Node.countAll b := by
  induction a with
  | nil => simp [Node.countAll]
  | cons n r ih => simp [Node.countAll, ih, Nat.add_assoc]

theorem Node.count_eq (n : Node) : n.count = 1 + Node.countAll n.content := by
  cases n <;> simp [Node.count, Node.content, Node.content?, Node.countAll]

mutual

/-- A node and all below it, a parent before its content. -/
def Node.preorder : Node → List Node
  | .paragraph p c => .paragraph p c :: Node.preorderAll c
  | .link a c => .link a c :: Node.preorderAll c
  | .text p v => [.text p v]
  | .generic i c => .generic i c :: Node.preorderAll c

/-- The nodes at and below a list of nodes, in document order. -/
def Node.preorderAll : List Node → List Node
  | [] => []
  | n :: r => n.preorder ++ Node.preorderAll r

end

/-- A walk on its way: the nodes that are put off until later, the next one last. -/
structure Walker where
  pending : Array Node

namespace Walker

/-- A walk that begins at the first of a list of nodes. -/
def ofNodes (ns : List Node) : Walker := ⟨ns.toArray.reverse⟩

/-- The last of the pending nodes is the next one. Its content comes in its place, the first node of it last. -/
def next? (w : Walker) : Option (Node × Walker) :=
  w.pending.back?.map fun n => (n, ⟨w.pending.pop ++ n.content.toArray.reverse⟩)

end Walker

/-- The nodes that a stack of pending nodes still yields. -/
def Node.walk : List Node → List Node
  | [] => []
  | n :: pending => n :: Node.walk (n.content ++ pending)
termination_by stack => Node.countAll stack
decreasing_by
  simp only [Node.countAll, Node.countAll_append, Node.count_eq n]
  omega

mutual

/-- Visit every link at or below a node, a link before the links in its content. The visitor sees the link with its
content and gives what the link says from then on; the content stays. -/
def Node.visitLinks {σ : Type u} (f : σ → Link → Anchor × σ) (s : σ) : Node → Node × σ
  | .paragraph p c =>
    let (c, s) := Node.visitLinksAll f s c
    (.paragraph p c, s)
  | .link a c =>
    let (a, s) := f s { a with content := c }
    let (c, s) := Node.visitLinksAll f s c
    (.link a c, s)
  | .text p v => (.text p v, s)
  | .generic i c =>
    let (c, s) := Node.visitLinksAll f s c
    (.generic i c, s)

/-- Visit every link at or below a list of nodes, first to last. -/
def Node.visitLinksAll {σ : Type u} (f : σ → Link → Anchor × σ) (s : σ) : List Node → List Node × σ
  | [] => ([], s)
  | n :: r =>
    let (n, s) := Node.visitLinks f s n
    let (r, s) := Node.visitLinksAll f s r
    (n :: r, s)

end

mutual

/-- The paths to the links below a node that may be embedded. `sole` tells that the node is the only one
in a paragraph. A link that may be embedded has a text inside and nothing further down. -/
def Node.barePaths (sole : Bool) : Node → List Path
  | .paragraph _ c => Node.barePathsAll (c.length == 1) 0 c
  | .link a c =>
    if sole && ({ a with content := c } : Link).isBare then [[]] else Node.barePathsAll false 0 c
  | .text .. => []
  | .generic _ c => Node.barePathsAll false 0 c

/-- The same for a list of nodes, the first of which has index `i`. -/
def Node.barePathsAll (sole : Bool) (i : Nat) : List Node → List Path
  | [] => []
  | n :: r => (n.barePaths sole).map (i :: ·) ++ Node.barePathsAll sole (i + 1) r

end

/-- The node at a path. -/
def Node.at? : List Node → Path → Option Node
  | _, [] => none
  | ns, [i] => ns[i]?
  | ns, i :: j :: p => ns[i]?.bind fun n => Node.at? n.content (j :: p)

/-- Change the link at a path; what is no link stays. -/
def Node.changeAnchor (f : Anchor → Anchor) : List Node → Path → List Node
  | ns, [] => ns
  | ns, [i] => ns.modify i (mapAnchor f)
  | ns, i :: j :: p => ns.modify i fun n => n.withContent (Node.changeAnchor f n.content (j :: p))

namespace Document

/-- All nodes in document order, the document itself apart. -/
def walk (d : Document) : List Node := Node.walk d.nodes

/-- The number of nodes. -/
def nodeCount (d : Document) : Nat := d.walk.length

/-- All links in document order, links inside links included. -/
def links (d : Document) : List Link := d.walk.filterMap Node.link?

/-- The number of links. -/
def linkCount (d : Document) : Nat := d.links.length

/-- The first link that satisfies `p`. -/
def findLink? (d : Document) (p : Link → Bool) : Option Link := d.links.find? p

/-- Visit every link in document order, with a state handed on from link to link. -/
def visitLinks {σ : Type u} (d : Document) (f : σ → Link → Anchor × σ) (s : σ) : Document × σ :=
  let (nodes, s) := Node.visitLinksAll f s d.nodes
  ({ d with nodes }, s)

/-- Visit every link with a visitor that does not look at the content of links. -/
def mapAnchors {σ : Type u} (d : Document) (s : σ) (f : σ → Anchor → Anchor × σ) : Document × σ :=
  d.visitLinks (fun s l => f s l.toAnchor) s

/-- The paths to the links that may be embedded, in document order: bare links that are the only node of a
paragraph. -/
def barePaths (d : Document) : List Path := Node.barePathsAll false 0 d.nodes

/-- The link at a path. -/
def link? (d : Document) (p : Path) : Option Link := (Node.at? d.nodes p).bind Node.link?

/-- The links that may be embedded, in document order. -/
def bareLinks (d : Document) : List Link := d.barePaths.filterMap d.link?

/-- Change the link at a path. -/
def changeAnchor (d : Document) (p : Path) (f : Anchor → Anchor) : Document :=
  { d with nodes := Node.changeAnchor f d.nodes p }

end Document

end LinkEmbed
