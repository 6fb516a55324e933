import LinkEmbed.Document.Render
import LinkEmbed.OEmbed.Preset
import LinkEmbed.Proofs.Card.Parts
import LinkEmbed.Proofs.Markup.Decodable
import LinkEmbed.Proofs.Properties.Shown

/-!
# Whose attributes count

Three sources tell the attributes of an embed: the transformer, the properties that the link had before, and the
destination and title of the link itself. The first that names an attribute decides, also when it says `null` and
so takes the attribute away.

* `Render.node_commit` — a link with an embed is written as the embed.
* `Render.mem_embedAttributes`, `Render.names_embedAttributes` — the attributes that its tag shows, and their order.
* `Render.readTag_embed` — a reader of the tag finds the same.
* `OEmbedPreset.RendersAsUsual.get?_element`, `CardStyle.get?_properties` — what documents and cards say of the
  destination and the class; `OEmbedPreset.rendersAsUsual_standard` — the documents of the standard preset.
* `Render.embed_attributes` — all of this for any link, tag and properties.
-/

namespace LinkEmbed

namespace Properties

/-- A reader finds under a name the text of its value. -/
theorem lookup_written (p : Properties) (k : String) :
    p.written.lookup k = (p.get? k).bind Scalar.attributeText? := by
  have hdistinct := p.distinct
  unfold written get?
  generalize p.entries = es at hdistinct
  induction es with
  | nil => rfl
  | cons e r ih =>
    obtain ⟨name, v⟩ := e
    obtain ⟨hname, hr⟩ := List.nodup_cons.mp hdistinct
    rw [List.filterMap_cons, lookup_cons_eq]
    by_cases hk : k = name
    · subst hk
      rw [if_pos rfl, Option.bind_some]
      -- A value that is not written hides nothing: no later entry has the same name.
      cases hv : v.attributeText? with
      | none => rw [Option.map_none, ih hr, lookup_eq_none hname, Option.bind_none]
      | some text => rw [Option.map_some, lookup_cons_eq, if_pos rfl]
    · rw [if_neg hk, ← ih hr]
      cases v.attributeText? with
      | none => rfl
      | some text => rw [Option.map_some, lookup_cons_eq, if_neg hk]

end Properties

/-! ## Sources of attributes -/

/-- The value that counts for an attribute of an embed: what the transformer says, else what the properties of the
link say, else the destination or the title. -/
def Anchor.decisive? (a : Anchor) (embed : Properties) (k : String) : Option Scalar :=
  (embed.get? k).or <| (a.properties.get? k).or <|
    if k = "href" then some (.text a.url)
    else if k = "title" then some (.ofText? a.title)
    else none

/-- The names of the attributes of an embed in order: destination and title, the further names of the link, and the
further names of the transformer. -/
def Anchor.attributeNames (a : Anchor) (embed : Properties) : List String :=
  ["href", "title"] ++ a.properties.names.filter (· ∉ ["href", "title"]) ++
    embed.names.filter fun k => k ∉ ["href", "title"] ∧ k ∉ a.properties.names

/-- The attributes that the tag of an embed shows. -/
def Anchor.embedAttributes (a : Anchor) (embed : Properties) : List (String × Scalar) :=
  ((Render.linkAttributes a).merge (a.properties.merge embed)).shown

namespace Render

/-- A link by itself has a destination and a title, which may be `null`. -/
theorem names_linkAttributes (a : Anchor) : (linkAttributes a).names = ["href", "title"] :=
  Properties.names_ofList (show ["href", "title"].Nodup by decide)

/-- The values of these two. -/
theorem get?_linkAttributes (a : Anchor) (k : String) :
    (linkAttributes a).get? k =
      if k = "href" then some (.text a.url) else if k = "title" then some (.ofText? a.title) else none := by
  have hdistinct : (entryNames [("href", Scalar.text a.url), ("title", .ofText? a.title)]).Nodup :=
    show ["href", "title"].Nodup by decide
  rw [linkAttributes, Properties.get?_ofList hdistinct, lookup_cons_eq, lookup_cons_eq, List.lookup_nil]

/-- What merging the three sources makes of a name is what the first of them says. -/
theorem get?_embed (a : Anchor) (p : Properties) (k : String) :
    ((linkAttributes a).merge (a.properties.merge p)).get? k = a.decisive? p k := by
  rw [Properties.get?_merge, Properties.get?_merge, get?_linkAttributes, Anchor.decisive?, Option.or_assoc]

/-- And what it makes of the order. -/
theorem names_embed (a : Anchor) (p : Properties) :
    ((linkAttributes a).merge (a.properties.merge p)).names = a.attributeNames p := by
  rw [Properties.names_merge, Properties.names_merge, names_linkAttributes, List.filter_append, List.filter_filter,
    Anchor.attributeNames, List.append_assoc]
  simp

/-- No attribute is there twice. -/
theorem nodup_attributeNames (a : Anchor) (p : Properties) : (a.attributeNames p).Nodup := by
  rw [← names_embed]
  exact Properties.distinct _

/-! ## The tag of an embed -/

/-- A link with an embed is written as the embed. -/
theorem node_commit (style : RenderStyle) (a : Anchor) (tag : String) (p : Properties) (children : List Markup)
    (content : List Node) :
    node style (.link (a.commit tag p children) content) =
      '<' :: tag.toList ++ (a.embedAttributes p).flatMap (fun e => oneAttribute e.1 e.2) ++
        if isVoidTag tag then closeVoid style else '>' :: markupAll style children ++ closeTag tag := by
  have hopen : openTag tag ((linkAttributes a).merge (a.properties.merge p)) =
      '<' :: tag.toList ++ (a.embedAttributes p).flatMap fun e => oneAttribute e.1 e.2 := by
    rw [openTag, Properties.attributes_eq_shown]
    rfl
  rw [node, wrapLink, ← hopen]
  simp only [Anchor.commit]
  split
  · rfl
  · rw [List.append_assoc]
    rfl

/-- An attribute shows with the value that counts, unless that is `null` or `false`. -/
theorem mem_embedAttributes {a : Anchor} {p : Properties} {k : String} {v : Scalar} :
    (k, v) ∈ a.embedAttributes p ↔ a.decisive? p k = some v ∧ v ≠ .null ∧ v ≠ .bool false := by
  rw [Anchor.embedAttributes, Properties.mem_shown, get?_embed]

/-- Attributes show in the order of their names. -/
theorem names_embedAttributes (a : Anchor) (p : Properties) :
    (a.embedAttributes p).map Prod.fst =
      (a.attributeNames p).filter fun k => (a.decisive? p k).any Scalar.isShown := by
  show Properties.shownNames _ = _
  rw [Properties.shownNames_eq, names_embed]
  simp only [get?_embed]

/-- A reader of the tag finds under each name the text of the value that counts. -/
theorem readTag_embed {a : Anchor} {tag : String} {p : Properties} (htag : Reader.IsName tag)
    (hlink : ∀ k ∈ a.properties.names, Reader.IsName k) (hp : ∀ k ∈ p.names, Reader.IsName k) (r : List Char) :
    ∃ attributes,
      Reader.readTag (tag.toList ++ (a.embedAttributes p).flatMap (fun e => oneAttribute e.1 e.2) ++ '>' :: r) =
        some (.startTag tag attributes, r) ∧
      ∀ k, attributes.lookup k = (a.decisive? p k).bind Scalar.attributeText? := by
  have hnames : ∀ e ∈ ((linkAttributes a).merge (a.properties.merge p)).entries, Reader.IsName e.1 := by
    intro e he
    have hmem : e.1 ∈ a.attributeNames p := names_embed a p ▸ List.mem_map_of_mem he
    simp only [Anchor.attributeNames, List.mem_append, List.mem_filter] at hmem
    rcases hmem with (hown | ⟨hk, -⟩) | ⟨hk, -⟩
    · have hall : ∀ k ∈ ["href", "title"], Reader.IsName k := by decide
      exact hall e.1 hown
    · exact hlink e.1 hk
    · exact hp e.1 hk
  have hread := Reader.readTag_start htag hnames (Reader.readAttributes_close r)
  rw [Properties.attributes_eq_shown] at hread
  refine ⟨_, hread, fun k => ?_⟩
  rw [Properties.lookup_written, get?_embed]

end Render

/-! ## Documents and cards -/

/-- The class of the element that a document becomes, unless it is a link. -/
def OEmbed.elementClass? : OEmbed → Option String
  | .photo _ => some "oembed-photo"
  | .video _ => some "oembed-video"
  | .rich _ => some "oembed-rich"
  | .link _ => none

namespace OEmbedPreset

/-- Photos, videos and other markup become elements as usual. How markup is read, what becomes of links and who is
asked for documents is left open. -/
structure RendersAsUsual (p : OEmbedPreset) : Prop where
  photo : p.photo = standard.photo
  video : p.video = standard.video
  rich : p.rich = standard.rich

/-- The standard preset renders as usual. -/
theorem rendersAsUsual_standard : standard.RendersAsUsual := ⟨rfl, rfl, rfl⟩

/-- A frame takes the destination away and has a class. -/
theorem get?_frame (name : String) (children : List Markup) :
    (frame name children).properties.get? "href" = some .null ∧
      (frame name children).properties.get? "class" = some (.text name) := by
  have hdistinct : (entryNames [("class", Scalar.text name), ("href", .null)]).Nodup :=
    show ["class", "href"].Nodup by decide
  rw [frame, Properties.get?_ofList hdistinct, Properties.get?_ofList hdistinct]
  exact ⟨rfl, rfl⟩

/-- The element of a document takes the destination of the link away and has a class of its own. -/
theorem RendersAsUsual.get?_element {p : OEmbedPreset} (h : p.RendersAsUsual) {u : Url} {document : OEmbed}
    {name : String} {x : Element} (hname : document.elementClass? = some name)
    (hx : p.element u document = .value x) :
    x.properties.get? "href" = some .null ∧ x.properties.get? "class" = some (.text name) := by
  -- Videos and rich documents have a frame of the same form around what is embedded.
  have hframe : ∀ {html : String} {name : String},
      (p.embed html).map (frame name) = .value x → ∃ children, x = frame name children := by
    intro html name hx
    cases hembed : p.embed html with
    | value children =>
      rw [hembed] at hx
      exact ⟨children, (Attempt.value.inj hx).symm⟩
    | panicked message =>
      rw [hembed] at hx
      cases hx
  cases document with
  | photo d =>
    rw [element, h.photo] at hx
    obtain rfl := Attempt.value.inj hx
    obtain rfl := Option.some.inj hname
    have hdistinct : (entryNames [("src", Scalar.text d.url), ("width", .integer d.width),
        ("height", .integer d.height), ("alt", .ofText? d.common.title), ("class", .text "oembed-photo"),
        ("href", .null)]).Nodup :=
      show ["src", "width", "height", "alt", "class", "href"].Nodup by decide
    rw [photoElement, Properties.get?_ofList hdistinct, Properties.get?_ofList hdistinct]
    exact ⟨rfl, rfl⟩
  | video d =>
    rw [element, h.video] at hx
    obtain rfl := Option.some.inj hname
    obtain ⟨children, rfl⟩ := hframe hx
    exact get?_frame "oembed-video" children
  | rich d =>
    rw [element, h.rich] at hx
    obtain rfl := Option.some.inj hname
    obtain ⟨children, rfl⟩ := hframe hx
    exact get?_frame "oembed-rich" children
  | link c => cases hname

end OEmbedPreset

/-- A card points to the page that the preview names. -/
theorem CardStyle.get?_properties (s : CardStyle) (p : Preview) :
    (s.properties p).get? "href" = some (.text p.url) := by
  rw [Properties.get?, s.entries_properties]
  rfl

/-! ## What is written for an embed -/

theorem Anchor.decisive?_of_embed {a : Anchor} {p : Properties} {k : String} {v : Scalar}
    (h : p.get? k = some v) : a.decisive? p k = some v := by
  rw [decisive?, h, Option.some_or]

/-- **Whose attributes count.** A link that a transformer took is written as an element of the transformer's tag.
Each attribute is there at most once and has the value that counts for it: the one of the transformer, else the one
of the link's properties, else the link's destination or title; `null` and `false` leave it out. Destination and
title come first, then the further names of the link, then those of the transformer. A reader finds the same. So
photos, videos and other markup have no destination and the class of their kind, whatever the link says, and a card
has the destination of its preview. -/
theorem Render.embed_attributes (style : RenderStyle) (a : Anchor) (tag : String) (p : Properties)
    (children : List Markup) (content : List Node) :
    node style (.link (a.commit tag p children) content) =
        '<' :: tag.toList ++ (a.embedAttributes p).flatMap (fun e => oneAttribute e.1 e.2) ++
          (if isVoidTag tag then closeVoid style else '>' :: markupAll style children ++ closeTag tag) ∧
      (∀ k v, (k, v) ∈ a.embedAttributes p ↔ a.decisive? p k = some v ∧ v ≠ .null ∧ v ≠ .bool false) ∧
      (a.attributeNames p).Nodup ∧
      (a.embedAttributes p).map Prod.fst =
        (a.attributeNames p).filter (fun k => (a.decisive? p k).any Scalar.isShown) ∧
      (Reader.IsName tag → (∀ k ∈ a.properties.names, Reader.IsName k) → (∀ k ∈ p.names, Reader.IsName k) →
        ∀ r, ∃ attributes,
          Reader.readTag (tag.toList ++ (a.embedAttributes p).flatMap (fun e => oneAttribute e.1 e.2) ++ '>' :: r) =
            some (.startTag tag attributes, r) ∧
          ∀ k, attributes.lookup k = (a.decisive? p k).bind Scalar.attributeText?) ∧
      (∀ u document name, document.elementClass? = some name →
        (∃ x, OEmbedPreset.standard.element u document = .value x) ∧
        ∀ preset : OEmbedPreset, preset.RendersAsUsual → ∀ x, preset.element u document = .value x →
          ("class", .text name) ∈ a.embedAttributes x.properties ∧
            ∀ v, ("href", v) ∉ a.embedAttributes x.properties) ∧
      ∀ (s : CardStyle) (preview : Preview),
        ("href", .text preview.url) ∈ a.embedAttributes (s.properties preview) := by
  refine ⟨node_commit style a tag p children content, fun k v => mem_embedAttributes, nodup_attributeNames a p,
    names_embedAttributes a p, fun htag hlink hp r => readTag_embed htag hlink hp r, ?_, ?_⟩
  · intro u document name hname
    refine ⟨by cases document <;> exact ⟨_, rfl⟩, fun preset hpreset x hx => ?_⟩
    obtain ⟨hhref, hclass⟩ := hpreset.get?_element hname hx
    refine ⟨mem_embedAttributes.mpr ⟨Anchor.decisive?_of_embed hclass, nofun, nofun⟩, fun v hv => ?_⟩
    obtain ⟨hdecisive, hnull, -⟩ := mem_embedAttributes.mp hv
    rw [Anchor.decisive?_of_embed hhref] at hdecisive
    exact hnull (Option.some.inj hdecisive).symm
  · intro s preview
    exact mem_embedAttributes.mpr ⟨Anchor.decisive?_of_embed (s.get?_properties preview), nofun, nofun⟩

end LinkEmbed
