import LinkEmbed.Proofs.Document.Skeleton

/-!
# Documents as markup

A document can be lowered to markup, node by node and without regard to how it is written (`Document.lower`). Writing
what it is lowered to gives the text of the document, so the writers of documents and of markup agree on tags,
attributes, void elements, references and nesting.

* `Render.attributes_languageClass`, `Render.attributes_image`, `Render.attributes_listStart` — an attribute without
  a value is written like one that is not there.
* `Render.wrap_shape` — a node of another kind is written like the markup that it is lowered to.
* `Render.wrapLink_eq` — so is a link, with or without an embed.
* `Document.render_eq_renderAll_lower` — and so is a whole document.
-/

namespace LinkEmbed

/-! ## Lowering -/

/-- An attribute, where it has a value. -/
def attributeOf (name : String) (value : Option Scalar) : List (String × Scalar) :=
  (value.map fun v => (name, v)).toList

/-- The tag of a heading: its depth brought between 1 and 6, and 1 where no whole number is given. -/
def headingTag : Option Scalar → String
  | some (.integer n) =>
    if n ≤ 1 then "h1"
    else if n = 2 then "h2"
    else if n = 3 then "h3"
    else if n = 4 then "h4"
    else if n = 5 then "h5"
    else "h6"
  | _ => "h1"

/-- The number that an ordered list starts at, where it is a whole number other than 1. -/
def startOf : Option Scalar → Option Scalar
  | some (.integer n) => if n = 1 then none else some (.integer n)
  | _ => none

/-- A list with its lowered content. -/
def listMarkup (p : Properties) (inner : List Markup) : Markup :=
  if p.get? "ordered" = some (.bool true) then
    .element "ol" (.ofList (attributeOf "start" (startOf (p.get? "start")))) inner
  else .element "ul" .empty inner

/-- The kinds of nodes that are the same element whatever they say. -/
def fixedTags : List (String × String) :=
  [("listItem", "li"), ("blockquote", "blockquote"), ("emphasis", "em"), ("strong", "strong"), ("delete", "del"),
    ("table", "table"), ("tableRow", "tr"), ("tableCell", "td")]

/-- The kinds of nodes that are never shown. -/
def hiddenKinds : List String := ["yaml", "toml", "definition", "footnoteDefinition"]

/-- A node of another kind with its lowered content. -/
def Generic.lower (info : Generic) (inner : List Markup) : List Markup :=
  let literal : Markup := .text (info.value.getD "")
  let text? (name : String) : Option Scalar := (info.properties.getText? name).map .text
  if info.kind ∈ hiddenKinds then []
  else
    match info.kind with
    | "inlineCode" => [.element "code" .empty [literal]]
    | "code" =>
      let language := (info.properties.getText? "lang").map fun lang => Scalar.text ("language-" ++ lang)
      [.element "pre" .empty [.element "code" (.ofList (attributeOf "class" language)) [literal]]]
    | "break" => [.element "br" .empty []]
    | "thematicBreak" => [.element "hr" .empty []]
    | "image" =>
      let alt := ("alt", (text? "alt").getD (.text ""))
      [.element "img" (.ofList (attributeOf "src" (text? "src") ++ alt :: attributeOf "title" (text? "title"))) []]
    | "heading" => [.element (headingTag (info.properties.get? "depth")) .empty inner]
    | "list" => [listMarkup info.properties inner]
    | kind =>
      match fixedTags.lookup kind, info.value with
      | some tag, _ => [.element tag .empty inner]
      | none, some value => [.text value]
      | none, none => inner

/-- A link with its lowered content, which an embed replaces by its own. A title that is not there keeps its place
among the attributes, where another may be set. -/
def Anchor.lower (a : Anchor) (inner : List Markup) : Markup :=
  let own : Properties := .ofList [("href", .text a.url), ("title", .ofText? a.title)]
  match a.embed with
  | some e => .element e.tag (own.merge e.properties) e.children
  | none => .element "a" (own.merge a.properties) inner

namespace Node

mutual

/-- The markup of a node. -/
def lower : Node → List Markup
  | .paragraph _ c => [.element "p" .empty (lowerAll c)]
  | .link a c => [a.lower (lowerAll c)]
  | .text _ value => [.text value]
  | .generic info c => info.lower (lowerAll c)

/-- The markup of a list of nodes. -/
def lowerAll : List Node → List Markup
  | [] => []
  | n :: r => lower n ++ lowerAll r

end

mutual

/-- Neither a node nor one inside it is source HTML. -/
def LacksSource : Node → Prop
  | .paragraph _ c => AllLackSource c
  | .link _ c => AllLackSource c
  | .text _ _ => True
  | .generic info c => info.kind ≠ "html" ∧ AllLackSource c

/-- None of a list of nodes is source HTML, and none inside them is. -/
def AllLackSource : List Node → Prop
  | [] => True
  | n :: r => LacksSource n ∧ AllLackSource r

end

end Node

/-- The markup of a document. -/
def Document.lower (d : Document) : List Markup := Node.lowerAll d.nodes

/-- No node of the document is source HTML. -/
def Document.LacksSource (d : Document) : Prop := Node.AllLackSource d.nodes

/-! ## Elements -/

namespace Render

section

variable (style : RenderStyle) (p : Properties) (inner : List Markup)

theorem markupAll_container {tag : String} (h : ¬ isVoidTag tag) :
    markupAll style [.element tag p inner] = openTag tag p ++ '>' :: markupAll style inner ++ closeTag tag := by
  rw [markupAll, markup, if_neg h, markupAll, List.append_nil]

theorem markupAll_void {tag : String} (h : isVoidTag tag) :
    markupAll style [.element tag p inner] = openTag tag p ++ closeVoid style := by
  rw [markupAll, markup, if_pos h, markupAll, List.append_nil]

theorem markupAll_text (value : String) : markupAll style [.text value] = escapeText value := by
  rw [markupAll, markup, markupAll, List.append_nil]

end

/-! ## Attributes that are not there -/

/-- A tag is known by what its attributes come to when they are written. -/
theorem openTag_of_attributes {p q : Properties} (h : attributes p = attributes q) (tag : String) :
    openTag tag p = openTag tag q := by
  rw [openTag, openTag, h]

/-- A code block without a language has a class that is null, which is not written. -/
theorem attributes_languageClass (p : Properties) :
    attributes (.ofList [("class", languageClass p)]) =
      attributes (.ofList (attributeOf "class" ((p.getText? "lang").map fun lang => .text ("language-" ++ lang)))) := by
  unfold languageClass
  cases p.getText? "lang" <;> rfl

/-- An image without a source or a title has them as null. -/
theorem attributes_image (p : Properties) :
    attributes (imageAttributes p) =
      attributes (.ofList (attributeOf "src" ((p.getText? "src").map .text) ++
        ("alt", ((p.getText? "alt").map Scalar.text).getD (.text "")) ::
          attributeOf "title" ((p.getText? "title").map .text))) := by
  unfold imageAttributes
  cases p.getText? "src" <;> cases p.getText? "alt" <;> cases p.getText? "title" <;> rfl

/-- A list that starts at one has a start that is null. -/
theorem attributes_listStart (p : Properties) :
    attributes (.ofList [("start", listStart p)]) =
      attributes (.ofList (attributeOf "start" (startOf (p.get? "start")))) := by
  unfold listStart
  cases p.get? "start" with
  | none => rfl
  | some v =>
    cases v with
    -- One is the number that a list starts at anyway.
    | integer n => by_cases h : n = 1 <;> simp only [startOf, h, if_true, if_false] <;> rfl
    | _ => rfl

/-! ## Nodes of other kinds -/

/-- Bringing the depth between its bounds comes to six cases. -/
theorem headingTag_eq (p : Properties) : "h" ++ toString (headingDepth p) = headingTag (p.get? "depth") := by
  unfold headingDepth
  cases p.get? "depth" with
  | none => rfl
  | some v =>
    cases v with
    | integer n =>
      simp only [headingTag]
      have hcases : n ≤ 1 ∨ n = 2 ∨ n = 3 ∨ n = 4 ∨ n = 5 ∨ 6 ≤ n := by omega
      rcases hcases with h | rfl | rfl | rfl | rfl | h
      · rw [if_pos h, show max 1 (min n 6) = 1 by omega]
        rfl
      · rfl
      · rfl
      · rfl
      · rfl
      · rw [if_neg (by omega), if_neg (by omega), if_neg (by omega), if_neg (by omega), if_neg (by omega),
          show max 1 (min n 6) = 6 by omega]
        rfl
    | _ => rfl

/-- The writer knows the same kinds as the table, and takes any list for an unordered one at first. -/
theorem plainContainer?_eq (kind : String) :
    plainContainer? kind = if kind = "list" then some "ul" else fixedTags.lookup kind := by
  unfold plainContainer?
  split
  · rfl
  · rfl
  · rfl
  · rfl
  · rfl
  · rfl
  · rfl
  · rfl
  · rfl
  next hlist h₁ h₂ h₃ h₄ h₅ h₆ h₇ h₈ =>
    -- None of the kinds that the writer knows, so none of the table either.
    have hnot : kind ∉ entryNames fixedTags := by
      simpa [entryNames, fixedTags] using And.intro h₁ ⟨h₂, h₃, h₄, h₅, h₆, h₇, h₈⟩
    rw [if_neg hlist, lookup_eq_none hnot]

/-- Only source HTML is written differently where it is passed through. -/
theorem shape_of_not_source {style : RenderStyle} {info : Generic} (h : style.rawHtml = true → info.kind ≠ "html") :
    shape style info = shape .html info := by
  unfold shape
  rw [if_neg fun hsource => h hsource.2 hsource.1, if_neg fun hsource => Bool.false_ne_true hsource.2]

/-- The kinds of nodes that are not written as an element around their content, whatever they say. -/
def contentlessKinds : List String := hiddenKinds ++ ["inlineCode", "code", "break", "thematicBreak", "image"]

/-- What is left of the shapes once the kinds without content are out: an element, a text, or the content alone. -/
theorem shape_of_kind (info : Generic) (h : info.kind ∉ contentlessKinds) :
    shape .html info =
      match container? info with
      | some (tag, p) => .container tag p
      | none =>
        match info.value with
        | some value => .escaped value
        | none => .content := by
  unfold shape
  rw [if_neg fun hsource => Bool.false_ne_true hsource.2]
  -- In all cases but the last the kind is one of those that have no content.
  split <;> first
    | rfl
    | next hk =>
        rw [hk] at h
        exact absurd (by decide) h

/-- The tag of a container is not void, so it is written as an element. -/
theorem wrap_container {style : RenderStyle} {info : Generic} {tag : String} {p : Properties}
    (hshape : shape .html info = .container tag p) (inner : List Markup) :
    (shape .html info).wrap style (markupAll style inner) = markupAll style [.element tag p inner] := by
  have hregular := shape_isRegular (show RenderStyle.html.rawHtml = false from rfl) info
  rw [hshape] at hregular ⊢
  exact (markupAll_container style p inner hregular.2.2).symm

/-- The tag of a void shape is void, so whatever stands inside is dropped in both. -/
theorem wrap_void {style : RenderStyle} {info : Generic} {tag : String} {p : Properties}
    (hshape : shape .html info = .void tag p) (inner : List Markup) :
    (shape .html info).wrap style (markupAll style inner) = markupAll style [.element tag p []] := by
  have hregular := shape_isRegular (show RenderStyle.html.rawHtml = false from rfl) info
  rw [hshape] at hregular ⊢
  exact (markupAll_void style p [] hregular.2.2).symm

/-- A list is ordered exactly if its property says `true`. -/
theorem wrap_list (style : RenderStyle) {info : Generic} (hkind : info.kind = "list") (inner : List Markup) :
    (shape .html info).wrap style (markupAll style inner) = markupAll style [listMarkup info.properties inner] := by
  have hshape := shape_of_kind info (by rw [hkind]; decide)
  have hheading : ¬ info.kind = "heading" := by rw [hkind]; decide
  unfold listMarkup
  split
  -- `ol`, with the number it begins at.
  next hordered =>
    have hcontainer : container? info = some ("ol", .ofList [("start", listStart info.properties)]) := by
      rw [container?, if_neg hheading, if_pos ⟨hkind, hordered⟩]
    rw [hcontainer] at hshape
    rw [wrap_container hshape, markupAll_container style _ _ (by decide), markupAll_container style _ _ (by decide),
      openTag_of_attributes (attributes_listStart info.properties)]
  -- `ul`, whatever the number says.
  next hordered =>
    have hcontainer : container? info = some ("ul", .empty) := by
      rw [container?, if_neg hheading, if_neg fun h => hordered h.2, hkind]
      rfl
    rw [hcontainer] at hshape
    exact wrap_container hshape inner

/-- A kind without a form of its own: an element for the kind if there is one, or else the text or the content. -/
theorem wrap_other (style : RenderStyle) {info : Generic} (hkind : info.kind ∉ contentlessKinds)
    (hheading : info.kind ≠ "heading") (hlist : info.kind ≠ "list") (inner : List Markup) :
    (shape .html info).wrap style (markupAll style inner) =
      markupAll style (match fixedTags.lookup info.kind, info.value with
        | some tag, _ => [.element tag .empty inner]
        | none, some value => [.text value]
        | none, none => inner) := by
  have hcontainer : container? info = (fixedTags.lookup info.kind).map fun tag => (tag, .empty) := by
    rw [container?, if_neg hheading, if_neg fun h => hlist h.1, plainContainer?_eq, if_neg hlist]
  have hshape := shape_of_kind info hkind
  rw [hcontainer] at hshape
  -- The table is asked first; a value counts only where it has nothing for the kind.
  cases htag : fixedTags.lookup info.kind with
  | some tag =>
    rw [htag] at hshape
    exact wrap_container hshape inner
  | none =>
    rw [htag] at hshape
    rw [hshape]
    cases info.value with
    | some value => exact (markupAll_text style value).symm
    | none => rfl

/-- A node of another kind is written like the markup that it is lowered to. -/
theorem wrap_shape (style : RenderStyle) (info : Generic) (inner : List Markup) :
    (shape .html info).wrap style (markupAll style inner) = markupAll style (info.lower inner) := by
  obtain ⟨kind, value, p, position⟩ := info
  unfold Generic.lower
  dsimp only
  split
  next hhidden =>
    -- Nothing is written of what is hidden, whatever it holds.
    simp only [hiddenKinds, List.mem_cons, List.not_mem_nil, or_false] at hhidden
    rcases hhidden with rfl | rfl | rfl | rfl <;> rfl
  next hshown =>
    split
    · -- Inline code.
      rw [markupAll_container style .empty _ (by decide), markupAll_text]
      simp [shape, Shape.wrap]
    · -- A block of code.
      rw [markupAll_container style .empty _ (by decide), markupAll_container style _ _ (by decide), markupAll_text,
        openTag_of_attributes (attributes_languageClass p).symm]
      simp [shape, Shape.wrap]
    · exact wrap_void rfl inner
    · exact wrap_void rfl inner
    · rw [wrap_void rfl inner, markupAll_void style _ _ (by decide), markupAll_void style _ _ (by decide),
        openTag_of_attributes (attributes_image p)]
    · -- A heading.
      refine wrap_container ?_ inner
      rw [← headingTag_eq]
      rfl
    · exact wrap_list style rfl inner
    next hinline hcode hbreak hrule himage hheading hlist =>
      have hkind : kind ∉ contentlessKinds := by
        rw [contentlessKinds, List.mem_append, not_or]
        exact ⟨hshown, by simpa using And.intro hinline ⟨hcode, hbreak, hrule, himage⟩⟩
      exact wrap_other style hkind hheading hlist inner

/-- A link is written like the markup that it is lowered to. -/
theorem wrapLink_eq (style : RenderStyle) (a : Anchor) (inner : List Markup) :
    wrapLink style a (markupAll style inner) = markupAll style [a.lower inner] := by
  unfold wrapLink Anchor.lower
  cases a.embed with
  | none => exact (markupAll_container style _ inner (by decide)).symm
  | some e =>
    dsimp only
    split
    -- An embed may have any tag, so whether it is void is seen only here.
    next hvoid => exact (markupAll_void style _ e.children hvoid).symm
    next hvoid => exact (markupAll_container style _ e.children hvoid).symm

/-! ## Documents -/

mutual

/-- The induction is on the tree; where source HTML is passed through, no node may be of that kind. -/
theorem node_eq_lower {style : RenderStyle} (n : Node) (h : style.rawHtml = true → n.LacksSource) :
    node style n = markupAll style n.lower := by
  cases n with
  | paragraph position c =>
    rw [node, nodes_eq_lowerAll c h]
    exact (markupAll_container style .empty _ (by decide)).symm
  | link a c =>
    rw [node, nodes_eq_lowerAll c h]
    exact wrapLink_eq style a _
  | text position value => exact (markupAll_text style value).symm
  | generic info c =>
    rw [node, nodes_eq_lowerAll c fun hraw => (h hraw).2, shape_of_not_source fun hraw => (h hraw).1]
    exact wrap_shape style info _

/-- A list of nodes is written as its markup in a row. -/
theorem nodes_eq_lowerAll {style : RenderStyle} (ns : List Node) (h : style.rawHtml = true → Node.AllLackSource ns) :
    nodes style ns = markupAll style (Node.lowerAll ns) := by
  cases ns with
  | nil => rfl
  | cons n r =>
    rw [nodes, Node.lowerAll, markupAll_append, node_eq_lower n fun hraw => (h hraw).1,
      nodes_eq_lowerAll r fun hraw => (h hraw).2]

end

end Render

/-- **One text for documents and markup.** Whatever a document holds, it is written as the markup that it is lowered
to. Where source HTML is passed through, this is so for documents without any. -/
theorem Document.render_eq_renderAll_lower (d : Document) {style : RenderStyle}
    (h : style.rawHtml = true → d.LacksSource) : d.render style = Markup.renderAll style d.lower := by
  rw [render, Markup.renderAll, lower, Render.nodes_eq_lowerAll d.nodes h]

/-- A list in a heading that is too deep, with an embed and an image inside. -/
def Document.nested : Document :=
  ⟨[.generic { kind := "heading", properties := .ofList [("depth", .integer 9)] }
      [.generic
        { kind := "list", properties := .ofList [("ordered", .bool true), ("start", .integer (-2))] }
        [.paragraph none
          [.link { url := "a&b", embed := some ⟨"br", .ofList [("href", .null)], [.text "lost"]⟩ } [],
            .generic { kind := "image", properties := .ofList [("src", .text "<"), ("alt", .null)] } []]],
        .generic { kind := "html2", value := some "<i>" } []],
      .generic { kind := "toml", value := some "hidden" } [.text none "hidden"]],
    none⟩

theorem Document.render_eq_renderAll_lower_nested :
    nested.LacksSource ∧ nested.render ⟨false, true⟩ = Markup.renderAll ⟨false, true⟩ nested.lower ∧
      Markup.renderAll ⟨false, true⟩ nested.lower =
        "<h6><ol start=\"-2\"><p><br><img src=\"&lt;\" alt=\"\"></p></ol>&lt;i&gt;</h6>" := by
  have hlacks : nested.LacksSource := by simp [nested, LacksSource, Node.AllLackSource, Node.LacksSource]
  exact ⟨hlacks, Document.render_eq_renderAll_lower nested fun _ => hlacks, by decide⟩

end LinkEmbed
