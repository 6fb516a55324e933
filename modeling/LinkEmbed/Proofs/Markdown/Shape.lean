import LinkEmbed.Markdown.Document
import LinkEmbed.Proofs.Document.Order

/-!
# Documents have the shape of their Markdown trees

A document made from a Markdown tree mirrors it: at every path there is a node in the one exactly if there is a node
in the other, and both have the same number of nodes inside, the same place in the source and the same `Label`.

* `Markdown.Leaf.label`, `Markdown.Branch.label` — what a node says, kind by kind.
* `Markdown.Node.isMirroredBy_toNode` — a node of a tree and the one made of it.
* `Markdown.Node.at?_toDocument` — the same paths lead to the same nodes.
* `Markdown.Node.isEligible_toDocument_iff` — the links that may be embedded are the bare links that paragraphs of
  the tree consist of.
* `Markdown.Node.toDocument_mirrors` — all of it, for every tree.
-/

namespace LinkEmbed

/-- What a node says apart from its place in the source and its content: the name of its kind, the text it holds,
what a link says, and fields. -/
structure Label where
  kind : String
  value : Option String := none
  anchor : Option Anchor := none
  fields : List (String × Scalar) := []
deriving DecidableEq

namespace Node

/-- The label of a node of a document. -/
def label : Node → Label
  | .paragraph p c => { kind := (paragraph p c).kind }
  | .link a c => { kind := (link a c).kind, anchor := some { a with position := none } }
  | .text p v => { kind := (text p v).kind, value := some v }
  | .generic i c => { kind := (generic i c).kind, value := i.value, fields := i.properties.entries }

end Node

namespace Markdown

/-! ## Labels of Markdown trees -/

/-- The label of a leaf. Expressions and components have one kind for all, and what is missing is null. -/
def Leaf.label : Leaf → Label
  | .text value => { kind := "text", value }
  | .inlineCode value => { kind := "inlineCode", value }
  | .inlineMath value => { kind := "inlineMath", value }
  | .code language value => { kind := "code", value, fields := [("lang", language.elim .null .text)] }
  | .math value => { kind := "math", value }
  | .html value => { kind := "html", value }
  | .yaml value => { kind := "yaml", value }
  | .toml value => { kind := "toml", value }
  | .hardBreak => { kind := "break" }
  | .thematicBreak => { kind := "thematicBreak" }
  | .image source alternative title =>
    { kind := "image"
      fields := [("src", .text source), ("alt", .text alternative), ("title", title.elim .null .text)] }
  | .imageReference _ => { kind := "imageReference" }
  | .footnoteReference => { kind := "footnoteReference" }
  | .definition => { kind := "definition" }
  | .expression _ => { kind := "mdx" }

/-- The label of a branch. A link of a tree has nothing but a destination and a title. -/
def Branch.label : Branch → Label
  | .root => { kind := "root" }
  | .paragraph => { kind := "paragraph" }
  | .heading depth => { kind := "heading", fields := [("depth", .integer depth)] }
  | .blockquote => { kind := "blockquote" }
  | .list ordered start =>
    { kind := "list", fields := [("ordered", .bool ordered), ("start", start.elim .null fun n => .integer n)] }
  | .listItem => { kind := "listItem" }
  | .footnoteDefinition => { kind := "footnoteDefinition" }
  | .table => { kind := "table" }
  | .tableRow => { kind := "tableRow" }
  | .tableCell => { kind := "tableCell" }
  | .emphasis => { kind := "emphasis" }
  | .strong => { kind := "strong" }
  | .delete => { kind := "delete" }
  | .link url title =>
    { kind := "link", anchor := some { url, title, hint := none, properties := .empty, embed := none } }
  | .linkReference => { kind := "linkReference" }
  | .component _ => { kind := "mdx" }

namespace Node

/-- The label of a node of a tree. -/
def label : Node → Label
  | .leaf l _ => l.label
  | .branch b _ _ => b.label

/-- A node of a document mirrors a node of a tree. -/
structure IsMirroredBy (m : Node) (n : LinkEmbed.Node) : Prop where
  label : n.label = m.label
  position : n.position? = m.position?
  count : n.content.length = m.content.length

/-- A node says what the node says of which it is made. -/
theorem label_toNode (m : Node) : m.toNode.label = m.label := by
  cases m with
  | leaf l position =>
    cases l with
    -- Only fields that may be missing are not written the same on both sides.
    | code language value =>
      rw [label, Leaf.label, ← Scalar.ofText?_eq_elim]
      rfl
    | image source alternative title =>
      rw [label, Leaf.label, ← Scalar.ofText?_eq_elim]
      rfl
    | _ => rfl
  | branch b position content =>
    cases b with
    | list ordered start =>
      rw [label, Branch.label, ← Scalar.ofNat?_eq_elim]
      rfl
    | _ => rfl

theorem position?_toNode (m : Node) : m.toNode.position? = m.position? := by
  cases m with
  | leaf l position => cases l <;> rfl
  | branch b position content => cases b <;> rfl

/-- The content of a node is made of the content of the node it is made from. -/
theorem content_toNode (m : Node) : m.toNode.content = m.content.map toNode := by
  cases m with
  | leaf l position => cases l <;> rfl
  | branch b position content => cases b <;> exact toNodes_eq_map content

theorem isMirroredBy_toNode (m : Node) : m.IsMirroredBy m.toNode where
  label := m.label_toNode
  position := m.position?_toNode
  count := by rw [content_toNode, List.length_map]

/-! ## The same paths -/

/-- The tree, below a root if it has none. -/
def asRoot : Node → Node
  | .branch .root position content => .branch .root position content
  | m => .branch .root none [m]

/-- With a root around it a tree begins with one. -/
theorem exists_asRoot (m : Node) : ∃ position content, m.asRoot = .branch .root position content := by
  unfold asRoot
  split
  next position content => exact ⟨position, content, rfl⟩
  next => exact ⟨none, [m], rfl⟩

/-- A document has what stands below the root. -/
theorem toDocument_eq (m : Node) : m.toDocument = ⟨m.asRoot.content.map toNode, m.asRoot.position?⟩ := by
  cases m with
  | leaf l position => rfl
  | branch b position content =>
    cases b with
    | root => exact congrArg (Document.mk · position) (toNodes_eq_map content)
    | _ => rfl

/-- The way down from a node leads to what is made of where it leads in the tree. -/
theorem below?_toNode (m : Node) (p : Path) : m.toNode.below? p = (m.at? p).map toNode := by
  induction p generalizing m with
  | nil => rfl
  | cons i p ih =>
    rw [LinkEmbed.Node.below?, LinkEmbed.Node.at?_cons, content_toNode, at?, List.getElem?_map]
    cases m.content[i]? with
    | none => rfl
    | some c => exact ih c

/-- At each path of a document stands what is made of the node at that path of the tree. -/
theorem at?_toDocument (m : Node) {p : Path} (hp : p ≠ []) :
    LinkEmbed.Node.at? m.toDocument.nodes p = (m.asRoot.at? p).map toNode := by
  obtain ⟨i, p, rfl⟩ := List.exists_cons_of_ne_nil hp
  rw [toDocument_eq, LinkEmbed.Node.at?_cons, at?, List.getElem?_map]
  cases m.asRoot.content[i]? with
  | none => rfl
  | some c => exact c.below?_toNode p

/-- A node of the document is made from the node at its path. -/
theorem exists_of_at?_toDocument {m : Node} {p : Path} {n : LinkEmbed.Node}
    (h : LinkEmbed.Node.at? m.toDocument.nodes p = some n) : ∃ k, m.asRoot.at? p = some k ∧ k.toNode = n := by
  have hp : p ≠ [] := by
    rintro rfl
    cases h
  rw [at?_toDocument m hp] at h
  exact Option.map_eq_some_iff.mp h

/-- A paragraph of the tree is one of the document. The root around a tree is no paragraph. -/
theorem at?_toDocument_of_paragraph {m : Node} {p : Path} {position : Option Position} {content : List Node}
    (h : m.asRoot.at? p = some (.branch .paragraph position content)) :
    LinkEmbed.Node.at? m.toDocument.nodes p = some (.paragraph position (content.map toNode)) := by
  have hp : p ≠ [] := by
    rintro rfl
    obtain ⟨position', content', hroot⟩ := m.exists_asRoot
    rw [hroot] at h
    cases h
  rw [at?_toDocument m hp, h, ← toNodes_eq_map]
  rfl

end Node

/-! ## Bare links -/

/-- A link whose content is one text, its own destination. -/
structure BareLink where
  url : String
  title : Option String
  position : Option Position
  textPosition : Option Position

namespace BareLink

/-- The link in a tree. -/
def node (b : BareLink) : Node := .branch (.link b.url b.title) b.position [.leaf (.text b.url) b.textPosition]

/-- The link in a document. -/
def link (b : BareLink) : Link :=
  { url := b.url
    title := b.title
    hint := none
    properties := .empty
    embed := none
    position := b.position
    content := [.text b.textPosition b.url] }

end BareLink

namespace Node

/-- A bare link stands at the path, the only node of a paragraph. -/
def HasBareLinkAt (m : Node) (p : Path) (b : BareLink) : Prop :=
  ∃ q position, p = q ++ [0] ∧ m.at? q = some (.branch .paragraph position [b.node])

/-- A text of the document is made from a text. -/
theorem toNode_eq_text_iff {m : Node} {position : Option Position} {value : String} :
    m.toNode = .text position value ↔ m = .leaf (.text value) position := by
  cases m with
  | leaf l position => cases l <;> simp [toNode, Leaf.toNode, and_comm]
  | branch b position content => cases b <;> simp [toNode, Branch.toNode]

/-- A paragraph of the document is made from a paragraph. -/
theorem toNode_eq_paragraph_iff {m : Node} {position : Option Position} {content : List LinkEmbed.Node} :
    m.toNode = .paragraph position content ↔ ∃ c, m = .branch .paragraph position c ∧ c.map toNode = content := by
  cases m with
  | leaf l position => cases l <;> simp [toNode, Leaf.toNode]
  | branch b position content => cases b <;> simp [toNode, Branch.toNode, toNodes_eq_map]

/-- A link is made from a link, of which it says what there is to say and nothing else. -/
theorem link?_toNode_eq_some_iff {m : Node} {l : Link} :
    m.toNode.link? = some l ↔ ∃ url title position c, m = .branch (.link url title) position c ∧
      l = { url, title, position, content := c.map toNode } := by
  cases m with
  | leaf l position => cases l <;> simp [toNode, Leaf.toNode, LinkEmbed.Node.link?]
  | branch b position content =>
    cases b <;> simp [toNode, Branch.toNode, LinkEmbed.Node.link?, toNodes_eq_map, eq_comm]

theorem map_toNode_eq_text_iff {c : List Node} {position : Option Position} {value : String} :
    c.map toNode = [.text position value] ↔ c = [.leaf (.text value) position] := by
  rw [List.map_eq_singleton_iff]
  simp only [toNode_eq_text_iff, exists_eq_right]

theorem link?_toNode_bareLink (b : BareLink) : b.node.toNode.link? = some b.link := rfl

/-- A bare link of a document is made from one of the tree. -/
theorem isBareLink_toNode_iff {m : Node} : m.toNode.IsBareLink ↔ ∃ b : BareLink, m = b.node := by
  constructor
  · rintro ⟨l, hl, hbare⟩
    obtain ⟨url, title, position, c, rfl, rfl⟩ := link?_toNode_eq_some_iff.mp hl
    obtain ⟨-, textPosition, hcontent⟩ := LinkEmbed.Node.isBare_iff.mp hbare
    have htext : c = [.leaf (.text url) textPosition] := map_toNode_eq_text_iff.mp hcontent
    exact ⟨⟨url, title, position, textPosition⟩, by rw [htext]; rfl⟩
  · rintro ⟨b, rfl⟩
    exact ⟨b.link, link?_toNode_bareLink b, LinkEmbed.Node.isBare_iff.mpr ⟨rfl, b.textPosition, rfl⟩⟩

/-- The links that may be embedded stand where bare links stand alone in paragraphs of the tree. -/
theorem isEligible_toDocument_iff {m : Node} {p : Path} :
    m.toDocument.IsEligible p ↔ ∃ b, m.asRoot.HasBareLinkAt p b := by
  constructor
  · rintro ⟨q, position, n, rfl, hat, hbare⟩
    obtain ⟨paragraph, hparagraph, hmade⟩ := exists_of_at?_toDocument hat
    obtain ⟨c, rfl, hc⟩ := toNode_eq_paragraph_iff.mp hmade
    obtain ⟨link, rfl, rfl⟩ := List.map_eq_singleton_iff.mp hc
    obtain ⟨b, rfl⟩ := isBareLink_toNode_iff.mp hbare
    exact ⟨b, q, position, rfl, hparagraph⟩
  · rintro ⟨b, q, position, rfl, hat⟩
    exact ⟨q, position, b.node.toNode, rfl, at?_toDocument_of_paragraph hat, isBareLink_toNode_iff.mpr ⟨b, rfl⟩⟩

/-- Where a bare link of the tree stands, the document has it as a link. -/
theorem link?_of_hasBareLinkAt {m : Node} {p : Path} {b : BareLink} (h : m.asRoot.HasBareLinkAt p b) :
    m.toDocument.link? p = some b.link := by
  obtain ⟨q, position, rfl, hat⟩ := h
  rw [Document.link?, LinkEmbed.Node.at?_append (at?_toDocument_of_paragraph hat)]
  exact link?_toNode_bareLink b

/-- A document made from a tree mirrors it. A tree without a root becomes the only node of the document; then at every
path both have a node or neither has, and the nodes have the same number of nodes inside, the same place in the
source and the same label. Links are made without hints, properties and embeds. So the links that may be embedded
are the bare links that paragraphs of the tree consist of, one after the other as they stand in the document. -/
theorem toDocument_mirrors (m : Node) :
    let d := m.toDocument
    (d.position = m.asRoot.position? ∧ d.nodes.length = m.asRoot.content.length) ∧
      (∀ p ≠ [], Option.Rel IsMirroredBy (m.asRoot.at? p) (LinkEmbed.Node.at? d.nodes p)) ∧
      (∀ p l, d.link? p = some l → l.hint = none ∧ l.properties = .empty ∧ l.embed = none) ∧
      (∀ p, p ∈ d.barePaths ↔ ∃ b, m.asRoot.HasBareLinkAt p b) ∧
      d.barePaths.Pairwise (· < ·) ∧
      (∀ p b, m.asRoot.HasBareLinkAt p b → d.link? p = some b.link) ∧
      d.barePaths.map d.link? = d.bareLinks.map some := by
  intro d
  refine ⟨?_, fun p hp => ?_, fun p l hl => ?_, fun p => Document.mem_barePaths_iff.trans isEligible_toDocument_iff,
    d.pairwise_linkPaths.sublist d.barePaths_sublist, fun p b => link?_of_hasBareLinkAt, d.map_link?_barePaths⟩
  · simp only [d, toDocument_eq, List.length_map, and_self]
  · rw [at?_toDocument m hp]
    cases m.asRoot.at? p with
    | none => exact .none
    | some n => exact .some n.isMirroredBy_toNode
  · obtain ⟨n, hn, hlink⟩ := Option.bind_eq_some_iff.mp hl
    obtain ⟨k, -, rfl⟩ := exists_of_at?_toDocument hn
    obtain ⟨url, title, position, c, -, rfl⟩ := link?_toNode_eq_some_iff.mp hlink
    exact ⟨rfl, rfl, rfl⟩

/-- A paragraph that is no more than a bare link, without a root. -/
example :
    (toDocument (.branch .paragraph none
      [.branch (.link "http://a" none) none [.leaf (.text "http://a") none]])).barePaths = [[0, 0]] := by
  decide

end Node

end Markdown

end LinkEmbed
