import LinkEmbed.Document.Render
import LinkEmbed.Proofs.Document.Blank
import LinkEmbed.Proofs.Markup.Scanner

/-!
# Text cannot change markup

The skeleton of a tree is read off the tree itself, without writing it. What is proved of written text is that it
spells this skeleton, and that texts have no say in it.

* `Render.shape_isRegular` — the tags and attributes that the writer chooses have plain names, and it closes what has
  to be closed.
* `Node.wellNested_tags` — in the skeleton of a tree tags are well nested.
* `Node.tags_blank`, `Node.isPlain_blank` — emptying all texts changes neither the skeleton nor whether names are
  plain.
* `Skeleton.spells_nodes` — a written tree spells its skeleton.
* `Document.same_skeleton` — so two documents that differ only in what their texts say are written with the same
  tags.
-/

namespace LinkEmbed

open Skeleton

/-! ## Skeletons of trees -/

namespace Render

/-- The skeleton of a node of another kind around that of its content. -/
def Shape.tags (inner : List Tag) : Shape → List Tag
  | .nothing => []
  | .verbatim _ => []
  | .escaped _ => []
  | .void tag p => enclosed tag p.shownNames []
  | .literal around _ => around.foldr (fun t us => enclosed t.1 t.2.shownNames us) []
  | .container tag p => enclosed tag p.shownNames inner
  | .content => inner

end Render

/-- The skeleton of a link around that of its content. -/
def Anchor.tags (a : Anchor) (inner : List Tag) : List Tag :=
  match a.embed with
  | some e => Markup.tags (.element e.tag ((Render.linkAttributes a).merge e.properties) e.children)
  | none => enclosed "a" ((Render.linkAttributes a).merge a.properties).shownNames inner

namespace Node

mutual

/-- The skeleton of a node. -/
def tags : Node → List Tag
  | .paragraph _ c => enclosed "p" [] (tagsAll c)
  | .link a c => a.tags (tagsAll c)
  | .text _ _ => []
  | .generic info c => (Render.shape .html info).tags (tagsAll c)

/-- The skeleton of a list of nodes. -/
def tagsAll : List Node → List Tag
  | [] => []
  | n :: r => tags n ++ tagsAll r

end

end Node

/-- The skeleton of a document. -/
def Document.tags (d : Document) : List Tag := Node.tagsAll d.nodes

/-! ## Plain names -/

/-- An embed with plain names, and without the end of a comment inside one. -/
def Embed.IsPlain (e : Embed) : Prop := Skeleton.IsPlain e.tag ∧ e.properties.IsPlain ∧ Markup.AllPlain e.children

/-- A link whose properties and embed have plain names. -/
def Anchor.IsPlain (a : Anchor) : Prop := a.properties.IsPlain ∧ ∀ e ∈ a.embed, e.IsPlain

namespace Node

mutual

/-- A node with plain names in its links, at any depth. -/
def IsPlain : Node → Prop
  | .paragraph _ c => AllPlain c
  | .link a c => a.IsPlain ∧ AllPlain c
  | .text _ _ => True
  | .generic _ c => AllPlain c

/-- Such nodes. -/
def AllPlain : List Node → Prop
  | [] => True
  | n :: r => n.IsPlain ∧ AllPlain r

end

end Node

/-- A document with plain names for tags and properties, and without the end of a comment inside one. -/
def Document.IsPlain (d : Document) : Prop := Node.AllPlain d.nodes

namespace Render

/-- A shape whose tags and attributes have plain names, and that takes as void what is void and nothing else. -/
def Shape.IsRegular : Shape → Prop
  | .verbatim _ => False
  | .void tag p => Skeleton.IsPlain tag ∧ p.IsPlain ∧ isVoidTag tag
  | .literal around _ => ∀ t ∈ around, Skeleton.IsPlain t.1 ∧ t.2.IsPlain ∧ ¬ isVoidTag t.1
  | .container tag p => Skeleton.IsPlain tag ∧ p.IsPlain ∧ ¬ isVoidTag tag
  | _ => True

theorem headingDepth_bounds (p : Properties) : 1 ≤ headingDepth p ∧ headingDepth p ≤ 6 := by
  unfold headingDepth
  split <;> omega

/-- The depth is between one and six, so there are six tags of headings, and each has a plain name. -/
theorem isPlain_heading (p : Properties) :
    Skeleton.IsPlain ("h" ++ toString (headingDepth p)) ∧ ¬ isVoidTag ("h" ++ toString (headingDepth p)) := by
  have hbounds := headingDepth_bounds p
  have hcases : headingDepth p = 1 ∨ headingDepth p = 2 ∨ headingDepth p = 3 ∨ headingDepth p = 4 ∨
      headingDepth p = 5 ∨ headingDepth p = 6 := by
    omega
  -- Six closed cases.
  rcases hcases with h | h | h | h | h | h <;> rw [h] <;> decide

/-- The tags for kinds of nodes are fixed and plain. -/
theorem isPlain_plainContainer {kind tag : String} (h : plainContainer? kind = some tag) :
    Skeleton.IsPlain tag ∧ ¬ isVoidTag tag := by
  unfold plainContainer? at h
  split at h <;> cases h <;> decide

/-- Whatever a node with content says, it is written with a tag that is plain and not void. -/
theorem container_isRegular {info : Generic} {tag : String} {p : Properties} (h : container? info = some (tag, p)) :
    Skeleton.IsPlain tag ∧ p.IsPlain ∧ ¬ isVoidTag tag := by
  unfold container? at h
  -- Headings, lists, and all other kinds have their tags from elsewhere.
  split at h
  · obtain ⟨rfl, rfl⟩ := Prod.mk.inj (Option.some.inj h)
    obtain ⟨hname, hvoid⟩ := isPlain_heading info.properties
    exact ⟨hname, Properties.isPlain_empty, hvoid⟩
  · split at h
    · obtain ⟨rfl, rfl⟩ := Prod.mk.inj (Option.some.inj h)
      have hstart : (Properties.ofList [("start", listStart info.properties)]).IsPlain :=
        Properties.isPlain_ofList (show ["start"].Nodup by decide) (show ∀ k ∈ ["start"], Skeleton.IsPlain k by decide)
      exact ⟨by decide, hstart, by decide⟩
    · obtain ⟨tag', htag, heq⟩ := Option.map_eq_some_iff.mp h
      obtain ⟨rfl, rfl⟩ := Prod.mk.inj heq
      obtain ⟨hname, hvoid⟩ := isPlain_plainContainer htag
      exact ⟨hname, Properties.isPlain_empty, hvoid⟩

/-- With source HTML escaped, no shape passes text through as it is. -/
theorem shape_isRegular {style : RenderStyle} (hraw : style.rawHtml = false) (info : Generic) :
    (shape style info).IsRegular := by
  -- The attributes of code and images have names that are known beforehand.
  have hcode : (Properties.ofList [("class", languageClass info.properties)]).IsPlain :=
    Properties.isPlain_ofList (show ["class"].Nodup by decide) (show ∀ k ∈ ["class"], Skeleton.IsPlain k by decide)
  have himage : (imageAttributes info.properties).IsPlain :=
    Properties.isPlain_ofList (show ["src", "alt", "title"].Nodup by decide)
      (show ∀ k ∈ ["src", "alt", "title"], Skeleton.IsPlain k by decide)
  unfold shape
  rw [if_neg (by simp [hraw])]
  split
  · trivial
  · trivial
  · trivial
  · trivial
  · rintro t ⟨⟩
    · exact ⟨by decide, Properties.isPlain_empty, by decide⟩
    next ht => cases ht
  · rintro t ⟨⟩
    · exact ⟨by decide, Properties.isPlain_empty, by decide⟩
    next ht =>
      obtain rfl := List.mem_singleton.mp ht
      have hname : Skeleton.IsPlain "code" ∧ ¬ isVoidTag "code" := by decide
      exact ⟨hname.1, hcode, hname.2⟩
  · exact ⟨by decide, Properties.isPlain_empty, by decide⟩
  · exact ⟨by decide, Properties.isPlain_empty, by decide⟩
  · exact ⟨by decide, himage, by decide⟩
  · split
    next tag p hcontainer => exact container_isRegular hcontainer
    next =>
      split
      · trivial
      · trivial

/-- The style does not matter for the shape then. -/
theorem shape_eq_html {style : RenderStyle} (hraw : style.rawHtml = false) (info : Generic) :
    shape style info = shape .html info := by
  simp [shape, hraw, RenderStyle.html]

end Render

/-! ## Nesting -/

/-- A shape puts whole elements around what is well nested. -/
theorem Render.Shape.wellNested_tags (shape : Shape) {inner : List Tag} (h : WellNested inner) :
    WellNested (shape.tags inner) := by
  cases shape with
  | nothing => exact .nil
  | verbatim value => exact .nil
  | escaped value => exact .nil
  | void tag p => exact WellNested.nil.enclosed tag p.shownNames
  | literal around value =>
    unfold tags
    induction around with
    | nil => exact .nil
    | cons t r ih => exact ih.enclosed t.1 t.2.shownNames
  | container tag p => exact h.enclosed tag p.shownNames
  | content => exact h

/-- A link is one element, be it its own or that of its embed. -/
theorem Anchor.wellNested_tags (a : Anchor) {inner : List Tag} (h : WellNested inner) :
    WellNested (a.tags inner) := by
  unfold tags
  split
  · exact Markup.wellNested_tags _
  · exact h.enclosed "a" _

namespace Node

mutual

/-- Each node is well nested if its content is. -/
theorem wellNested_tags (n : Node) : WellNested n.tags := by
  cases n with
  | paragraph position c => exact (wellNested_tagsAll c).enclosed "p" []
  | link a c => exact a.wellNested_tags (wellNested_tagsAll c)
  | text position value => exact .nil
  | generic info c => exact Render.Shape.wellNested_tags _ (wellNested_tagsAll c)

theorem wellNested_tagsAll (ns : List Node) : WellNested (tagsAll ns) := by
  cases ns with
  | nil => exact .nil
  | cons n r => exact (wellNested_tags n).append (wellNested_tagsAll r)

end

end Node

/-! ## Texts have no say -/

theorem Properties.isPlain_blank (p : Properties) : p.blank.IsPlain ↔ p.IsPlain := by
  rw [IsPlain, IsPlain, names_blank]

namespace Markup

mutual

theorem tags_blank (m : Markup) : m.blank.tags = m.tags := by
  cases m with
  | element tag p children => rw [blank, tags, tags, Properties.shownNames_blank, tagsAll_blankAll children]
  | text s => rfl
  | comment s => rfl

theorem tagsAll_blankAll (ms : List Markup) : tagsAll (blankAll ms) = tagsAll ms := by
  cases ms with
  | nil => rfl
  | cons m r => rw [blankAll, tagsAll, tagsAll, tags_blank m, tagsAll_blankAll r]

end

mutual

theorem isPlain_blank (m : Markup) : m.blank.IsPlain ↔ m.IsPlain := by
  cases m with
  | element tag p children =>
    rw [blank, IsPlain, IsPlain, Properties.isPlain_blank, allPlain_blankAll children]
  | text s => exact Iff.rfl
  | comment s => exact Iff.rfl

theorem allPlain_blankAll (ms : List Markup) : AllPlain (blankAll ms) ↔ AllPlain ms := by
  cases ms with
  | nil => exact Iff.rfl
  | cons m r => rw [blankAll, AllPlain, AllPlain, isPlain_blank m, allPlain_blankAll r]

end

end Markup

theorem Embed.isPlain_blank (e : Embed) : e.blank.IsPlain ↔ e.IsPlain := by
  rw [IsPlain, IsPlain, blank, Properties.isPlain_blank, Markup.allPlain_blankAll]

theorem Anchor.isPlain_blank (a : Anchor) : a.blank.IsPlain ↔ a.IsPlain := by
  rw [IsPlain, IsPlain, blank, Properties.isPlain_blank]
  cases a.embed with
  | none => simp
  | some e => simp [Embed.isPlain_blank]

/-- The destination and the title are texts, so a link without its texts keeps the names of its attributes. -/
theorem Render.linkAttributes_blank (a : Anchor) : linkAttributes a.blank = (linkAttributes a).blank := by
  rw [linkAttributes, linkAttributes, Properties.ofList_blank, Anchor.blank, Scalar.ofText?_map_blank]
  rfl

/-- The texts of a link and of its embed do not change its tags. -/
theorem Anchor.tags_blank (a : Anchor) (inner : List Tag) : a.blank.tags inner = a.tags inner := by
  unfold tags
  rw [Render.linkAttributes_blank]
  -- An embed brings its own tag and content; without one the link is an anchor around its content.
  cases hembed : a.embed with
  | none =>
    have hblank : a.blank.embed = none := by rw [blank, hembed, Option.map_none]
    have hmerge : (Render.linkAttributes a).blank.merge a.blank.properties =
        ((Render.linkAttributes a).merge a.properties).blank := (Properties.merge_blank _ _).symm
    rw [hblank]
    dsimp only
    rw [hmerge, Properties.shownNames_blank]
  | some e =>
    have hblank : a.blank.embed = some e.blank := by rw [blank, hembed, Option.map_some]
    have hmerge : (Render.linkAttributes a).blank.merge e.blank.properties =
        ((Render.linkAttributes a).merge e.properties).blank := (Properties.merge_blank _ _).symm
    rw [hblank]
    dsimp only
    rw [hmerge]
    exact Markup.tags_blank (.element e.tag ((Render.linkAttributes a).merge e.properties) e.children)

namespace Render

/-- A depth is a number, which no text is. -/
theorem headingDepth_blank (p : Properties) : headingDepth p.blank = headingDepth p := by
  rw [headingDepth, headingDepth, Properties.get?_blank]
  cases p.get? "depth" with
  | none => rfl
  | some v => cases v <;> rfl

/-- So is the start of a list. -/
theorem listStart_blank (p : Properties) : listStart p.blank = listStart p := by
  rw [listStart, listStart, Properties.get?_blank]
  cases p.get? "start" with
  | none => rfl
  | some v => cases v <;> rfl

theorem get?_ordered_blank (p : Properties) :
    p.blank.get? "ordered" = some (.bool true) ↔ p.get? "ordered" = some (.bool true) := by
  rw [Properties.get?_blank]
  cases p.get? "ordered" with
  | none => exact Iff.rfl
  | some v => cases v <;> simp [Scalar.blank]

/-- The tag of a node does not depend on its texts. -/
theorem container?_blank (info : Generic) : container? info.blank = container? info := by
  unfold container?
  simp only [Generic.blank, headingDepth_blank, listStart_blank, get?_ordered_blank]

/-- A code block has a class exactly if it has a language, whatever the language is. -/
theorem shownNames_languageClass_blank (p : Properties) :
    (Properties.ofList [("class", languageClass p.blank)]).shownNames =
      (Properties.ofList [("class", languageClass p)]).shownNames := by
  rw [← Properties.shownNames_blank, ← Properties.shownNames_blank (.ofList [("class", languageClass p)]),
    Properties.ofList_blank, Properties.ofList_blank, languageClass, languageClass, Properties.getText?_blank]
  cases p.getText? "lang" <;> rfl

/-- An image has the attributes that it has a text for. -/
theorem shownNames_imageAttributes_blank (p : Properties) :
    (imageAttributes p.blank).shownNames = (imageAttributes p).shownNames := by
  rw [← Properties.shownNames_blank, ← Properties.shownNames_blank (imageAttributes p), imageAttributes,
    imageAttributes, Properties.ofList_blank, Properties.ofList_blank, Properties.getText?_blank,
    Properties.getText?_blank, Properties.getText?_blank]
  cases p.getText? "src" <;> cases p.getText? "title" <;> rfl

/-- Which shape a node has depends on its kind, its numbers and whether it has a value. -/
theorem tags_shape_blank (info : Generic) (inner : List Tag) :
    (shape .html info.blank).tags inner = (shape .html info).tags inner := by
  have hescaped : ∀ i : Generic, ¬ (i.kind = "html" ∧ RenderStyle.html.rawHtml = true) := fun i h => nomatch h.2
  have hkind : info.blank.kind = info.kind := rfl
  unfold shape
  rw [if_neg (hescaped _), if_neg (hescaped _), container?_blank]
  simp only [hkind]
  -- Two of the kinds have attributes, and their texts are blanked; all others are the same as they stand.
  split
  · rfl
  · rfl
  · rfl
  · rfl
  · rfl
  · simp only [Shape.tags, List.foldr_cons, List.foldr_nil]
    rw [Generic.blank, shownNames_languageClass_blank]
  · rfl
  · rfl
  · simp only [Shape.tags]
    rw [Generic.blank, shownNames_imageAttributes_blank]
  · cases hcontainer : container? info with
    | some t => rfl
    | none =>
      rw [Generic.blank]
      cases info.value <;> rfl

end Render

namespace Node

mutual

theorem tags_blank (n : Node) : n.blank.tags = n.tags := by
  cases n with
  | paragraph position c => rw [blank, tags, tags, tagsAll_blankAll c]
  | link a c => rw [blank, tags, tags, tagsAll_blankAll c, Anchor.tags_blank]
  | text position value => rfl
  | generic info c => rw [blank, tags, tags, tagsAll_blankAll c, Render.tags_shape_blank]

theorem tagsAll_blankAll (ns : List Node) : tagsAll (blankAll ns) = tagsAll ns := by
  cases ns with
  | nil => rfl
  | cons n r => rw [blankAll, tagsAll, tagsAll, tags_blank n, tagsAll_blankAll r]

end

mutual

theorem isPlain_blank (n : Node) : n.blank.IsPlain ↔ n.IsPlain := by
  cases n with
  | paragraph position c => rw [blank, IsPlain, IsPlain, allPlain_blankAll c]
  | link a c => rw [blank, IsPlain, IsPlain, Anchor.isPlain_blank, allPlain_blankAll c]
  | text position value => exact Iff.rfl
  | generic info c => rw [blank, IsPlain, IsPlain, allPlain_blankAll c]

theorem allPlain_blankAll (ns : List Node) : AllPlain (blankAll ns) ↔ AllPlain ns := by
  cases ns with
  | nil => exact Iff.rfl
  | cons n r => rw [blankAll, AllPlain, AllPlain, isPlain_blank n, allPlain_blankAll r]

end

end Node

/-! ## Written trees -/

namespace Skeleton

/-- Elements inside one another around a text. -/
theorem spells_literal {around : List (String × Properties)}
    (h : ∀ t ∈ around, Skeleton.IsPlain t.1 ∧ t.2.IsPlain ∧ ¬ Render.isVoidTag t.1) (value : String) :
    Spells
      (around.flatMap (fun t => Render.openTag t.1 t.2 ++ ['>']) ++ Render.escapeText value ++
        around.reverse.flatMap fun t => Render.closeTag t.1)
      (around.foldr (fun t us => enclosed t.1 t.2.shownNames us) []) := by
  induction around with
  | nil => simpa using spells_escapeText value
  | cons t r ih =>
    obtain ⟨htag, hp, hvoid⟩ := h t List.mem_cons_self
    have hr := ih fun d hd => h d (List.mem_cons_of_mem t hd)
    have hall := hr.element htag hvoid hp
    simpa using hall

/-- A regular shape spells its tags around whatever the content spells. -/
theorem spells_wrap {style : RenderStyle} {shape : Render.Shape} (h : shape.IsRegular) {cs : List Char}
    {us : List Tag} (hcs : Spells cs us) : Spells (shape.wrap style cs) (shape.tags us) := by
  cases shape with
  | nothing => exact Spells.nil
  -- Source HTML that is passed through could spell anything; a regular shape has none.
  | verbatim value => exact h.elim
  | escaped value => exact spells_escapeText value
  | void tag p =>
    obtain ⟨htag, hp, hvoid⟩ := h
    exact spells_voidElement htag hvoid hp style []
  | literal around value => exact spells_literal h value
  | container tag p =>
    obtain ⟨htag, hp, hvoid⟩ := h
    exact hcs.element htag hvoid hp
  | content => exact hcs

/-- The attributes that a link brings along have plain names. -/
theorem isPlain_linkAttributes (a : Anchor) : (Render.linkAttributes a).IsPlain :=
  Properties.isPlain_ofList (show ["href", "title"].Nodup by decide)
    (show ∀ k ∈ ["href", "title"], Skeleton.IsPlain k by decide)

/-- A link spells its element, or that of its embed with the children of the embed inside. -/
theorem spells_wrapLink (style : RenderStyle) {a : Anchor} (h : a.IsPlain) {cs : List Char} {us : List Tag}
    (hcs : Spells cs us) : Spells (Render.wrapLink style a cs) (a.tags us) := by
  obtain ⟨hproperties, hembed⟩ := h
  unfold Render.wrapLink Anchor.tags
  cases hcase : a.embed with
  | none =>
    exact hcs.element (by decide) (by decide) (Properties.isPlain_merge (isPlain_linkAttributes a) hproperties)
  | some e =>
    obtain ⟨htag, hp, hchildren⟩ := hembed e hcase
    have hmarkup : Markup.IsPlain (.element e.tag ((Render.linkAttributes a).merge e.properties) e.children) :=
      ⟨htag, Properties.isPlain_merge (isPlain_linkAttributes a) hp, hchildren⟩
    exact spells_markup style hmarkup

mutual

/-- A node spells its skeleton: each constructor adds its own tags around those of its content. -/
theorem spells_node {style : RenderStyle} (hraw : style.rawHtml = false) {n : Node} (h : n.IsPlain) :
    Spells (Render.node style n) n.tags := by
  match n, h with
  | .paragraph _ c, h => exact (spells_nodes hraw h).element (by decide) (by decide) Properties.isPlain_empty
  | .link a c, ⟨ha, hc⟩ => exact spells_wrapLink style ha (spells_nodes hraw hc)
  | .text _ value, _ => exact spells_escapeText value
  | .generic info c, h =>
    rw [Render.node, Node.tags, ← Render.shape_eq_html hraw]
    exact spells_wrap (Render.shape_isRegular hraw info) (spells_nodes hraw h)

theorem spells_nodes {style : RenderStyle} (hraw : style.rawHtml = false) {ns : List Node} (h : Node.AllPlain ns) :
    Spells (Render.nodes style ns) (Node.tagsAll ns) := by
  match ns, h with
  | [], _ => exact Spells.nil
  | n :: r, ⟨hn, hr⟩ => exact (spells_node hraw hn).append (spells_nodes hraw hr)

end

end Skeleton

/-- **Text cannot change markup.** Take two documents that differ only in what their texts say: the texts of nodes,
destinations and titles of links, texts that are values of properties, and the texts in embeds. If names are plain
and no comment contains the end of one, both are written with the same tags, the same attributes in them and the
same comments, and the tags are well nested. Unless the name of a tag begins like a comment, that is also what a
scanner finds in both. -/
theorem Document.same_skeleton {d e : Document} (hplain : d.IsPlain) (hsame : d.blank = e.blank)
    {style : RenderStyle} (hraw : style.rawHtml = false) :
    Spells (d.render style).toList d.tags ∧ Spells (e.render style).toList d.tags ∧ WellNested d.tags ∧
      ((∀ t ∈ d.tags, t.IsClear) →
        skeleton (d.render style) = some d.tags ∧ skeleton (e.render style) = some d.tags) := by
  have hnodes : Node.blankAll d.nodes = Node.blankAll e.nodes := congrArg Document.nodes hsame
  -- Both documents have the same blank, so what holds of one by its blank holds of the other.
  have hplain' : Node.AllPlain e.nodes := by
    rw [← Node.allPlain_blankAll, ← hnodes, Node.allPlain_blankAll]
    exact hplain
  have htags : Node.tagsAll e.nodes = d.tags := by
    rw [← Node.tagsAll_blankAll, ← hnodes, Node.tagsAll_blankAll]
    rfl
  have hd : Spells (Render.nodes style d.nodes) d.tags := spells_nodes hraw hplain
  have he : Spells (Render.nodes style e.nodes) d.tags := by
    rw [← htags]
    exact spells_nodes hraw hplain'
  refine ⟨?_, ?_, Node.wellNested_tagsAll d.nodes, fun hclear => ⟨hd.skeleton_eq hclear, he.skeleton_eq hclear⟩⟩
  · rw [Document.render, String.toList_ofList]
    exact hd
  · rw [Document.render, String.toList_ofList]
    exact he

/-- An embed and a code block with texts that look like markup. -/
def Document.suspicious : Document :=
  ⟨[.paragraph none
      [.link
        { url := "\"><script>", title := some "</p>",
          embed := some ⟨"div", .ofList [("class", .text "\" id=\"x")], [.text "</div>", .comment " > "]⟩ }
        [.text none "<b>"]],
    .generic { kind := "code", value := some "</code><p>", properties := .ofList [("lang", .text "\">")] } []],
    none⟩

/-- The same with other texts. -/
def Document.harmless : Document :=
  ⟨[.paragraph none
      [.link
        { url := "https://a.b", title := some "A",
          embed := some ⟨"div", .ofList [("class", .text "card")], [.text "1 < 2", .comment " > "]⟩ }
        [.text none ""]],
    .generic { kind := "code", value := some "x", properties := .ofList [("lang", .text "c")] } []],
    none⟩

theorem Document.same_skeleton_suspicious :
    skeleton (suspicious.render .xhtml) = some suspicious.tags ∧
      skeleton (harmless.render .xhtml) = some suspicious.tags ∧ WellNested suspicious.tags := by
  have hcomment : ¬ "-->".toList <:+: " > ".toList := by simp [List.infix_cons_iff]
  have hplain : suspicious.IsPlain := by
    refine ⟨⟨⟨⟨nofun, ?_⟩, trivial, trivial⟩, trivial⟩, trivial, trivial⟩
    rintro embed ⟨⟩
    exact ⟨by decide, by decide, trivial, hcomment, trivial⟩
  have hsame : suspicious.blank = harmless.blank := rfl
  obtain ⟨-, -, hnested, hclear⟩ := Document.same_skeleton hplain hsame (show RenderStyle.xhtml.rawHtml = false from rfl)
  obtain ⟨hsuspicious, hharmless⟩ := hclear (by decide)
  exact ⟨hsuspicious, hharmless, hnested⟩

end LinkEmbed
