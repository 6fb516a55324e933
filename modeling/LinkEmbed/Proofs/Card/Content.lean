import LinkEmbed.Proofs.Card.Parts

/-!
# The content of cards

The content of a card is one element made of parts. How the parts stand in one another and what they show decides
what is found by a class, whatever all classes begin with, and what the text of the content is.

* `CardStyle.content_eq` — the content is made of the parts.
* `CardParts.findByClass?_container` — by a class the part of that name is found, or nothing if it is left out.
* `CardParts.textContent_container` — the text of the content: title, description and host, with nothing where a
  block is left out.
* `CardStyle.shownDescription?_card`, `CardStyle.shownImage?_card` — a card has a block for the description exactly
  if the preview has one that is not empty, and one for the image exactly if its address is not empty.
* `CardStyle.content_in_parts` — all of this about the content of any card.
-/

namespace LinkEmbed

/-! ## Parts -/

/-- The parts that the content of a card is made of. -/
structure CardParts where
  container : Element
  info : Element
  title : Element
  description? : Option Element
  link : Element
  favicon : Element
  hostname : Element
  image? : Option Element

/-- The host of the URL; it is empty if the URL cannot be read or has none. -/
def Preview.hostText (p : Preview) : String := ((Url.parse p.url).toOption.bind Url.hostText?).getD ""

theorem Preview.hostname?_getD (p : Preview) : p.hostname?.getD "" = p.hostText := by
  rw [hostname?, hostText]
  cases Url.parse p.url <;> rfl

/-! ## Lists of nodes -/

namespace Markup

/-- The texts of nodes in a row are one after another. -/
theorem textContentAll_append (a b : List Markup) :
    textContentAll (a ++ b) = textContentAll a ++ textContentAll b := by
  induction a with
  | nil => rw [List.nil_append, textContentAll, String.empty_append]
  | cons m r ih => rw [List.cons_append, textContentAll, textContentAll, ih, String.append_assoc]

/-- What is looked for is found in the first of two lists that has it. -/
theorem findIn?_append (q : Element → Bool) (a b : List Markup) :
    findIn? q (a ++ b) = (findIn? q a).or (findIn? q b) := by
  induction a with
  | nil => rfl
  | cons m r ih => rw [List.cons_append, findIn?, findIn?, ih, Option.or_assoc]

end Markup

namespace CardParts

/-- Each part is found by its name. -/
structure FoundBy (c : CardParts) (find : String → Option Element) : Prop where
  container : find "container" = some c.container
  info : find "info" = some c.info
  title : find "title" = some c.title
  description : find "description" = c.description?
  link : find "link" = some c.link
  favicon : find "favicon" = some c.favicon
  hostname : find "hostname" = some c.hostname
  image : find "image" = c.image?

/-- The parts stand in one another, with nothing beside them. -/
structure Nested (c : CardParts) : Prop where
  container : c.container.children = c.info.toMarkup :: c.image?.toList.map Element.toMarkup
  info : c.info.children = c.title.toMarkup :: (c.description?.toList.map Element.toMarkup ++ [c.link.toMarkup])
  link : c.link.children = [c.favicon.toMarkup, c.hostname.toMarkup]
  favicon : c.favicon.children = []

/-- The parts show a preview, with the text that stands for its icon. There is a block for the description if it is
not empty, and one for the image if its address is not empty. -/
structure Shows (c : CardParts) (p : Preview) (icon : String) : Prop where
  title : c.title.children = (p.title.map Markup.text).toList
  description : c.description?.map Element.textContent = p.description.filter (· ≠ "")
  description_alone : ∀ block ∈ c.description?, block.children = [.text block.textContent]
  hostname : c.hostname.children = [.text p.hostText]
  favicon : c.favicon.tag = "img" ∧ c.favicon.properties.get? "src" = some (p.favicon.elim .null .text) ∧
    c.favicon.properties.get? "alt" = some (.text icon)
  image : c.image?.isSome ↔ ∃ src, p.image.src = some src ∧ src ≠ ""
  image_alone : ∀ block ∈ c.image?, ∃ img : Element, block.children = [img.toMarkup] ∧
    img.tag = "img" ∧ img.children = [] ∧ img.class? = none ∧ img.properties.get? "src" = p.image.src.map .text ∧
    img.properties.get? "alt" = some (p.image.alt.elim .null .text)

/-- The parts by name, in the order in which they stand in the card. -/
def named (c : CardParts) : List (String × Element) :=
  ("container", c.container) :: ("info", c.info) :: ("title", c.title) ::
    (c.description?.toList.map ("description", ·) ++
      [("link", c.link), ("favicon", c.favicon), ("hostname", c.hostname)] ++ c.image?.toList.map ("image", ·))

/-- Each part has its own class. -/
def Classed (c : CardParts) (s : CardStyle) : Prop := ∀ x ∈ c.named, x.2.class? = some (s.className x.1)

/-- The names are distinct, so each part is found by its own. -/
theorem foundBy_lookup_named (c : CardParts) : c.FoundBy fun name => List.lookup name c.named := by
  obtain ⟨container, info, title, description?, link, favicon, hostname, image?⟩ := c
  -- What is left out leaves its name without an entry, and no other part has that name.
  cases description? <;> cases image? <;> constructor <;> rfl

/-! ## What is found in the content -/

variable {c : CardParts} {p : Preview} {icon : String} {s : CardStyle} {wanted : String}

/-- A part is found by its class, and else what is looked for is inside it. -/
theorem Classed.find? (h : c.Classed s) {part : String} {e : Element} {inside : List (String × Element)}
    (he : (part, e) ∈ c.named) (hinside : Markup.findIn? (s.isPart wanted) e.children = List.lookup wanted inside) :
    e.toMarkup.find? (s.isPart wanted) = List.lookup wanted ((part, e) :: inside) := by
  rw [CardStyle.find?_of_class? (h (part, e) he), lookup_cons_eq, hinside]
  simp only [eq_comm]

/-- The same for a block that may be left out. -/
theorem findIn?_toList {part : String} {block? : Option Element}
    (h : ∀ block ∈ block?, block.toMarkup.find? (s.isPart wanted) = List.lookup wanted [(part, block)]) :
    Markup.findIn? (s.isPart wanted) (block?.toList.map Element.toMarkup) =
      List.lookup wanted (block?.toList.map (part, ·)) := by
  cases block? with
  | none => rfl
  | some block => exact Option.or_none.trans (h block rfl)

section

variable (hclassed : c.Classed s)
include hclassed

theorem find?_title (hshows : c.Shows p icon) :
    c.title.toMarkup.find? (s.isPart wanted) = List.lookup wanted [("title", c.title)] := by
  refine hclassed.find? (by simp [named]) ?_
  rw [hshows.title]
  cases p.title <;> rfl

theorem find?_description (hshows : c.Shows p icon) {block : Element} (hblock : block ∈ c.description?) :
    block.toMarkup.find? (s.isPart wanted) = List.lookup wanted [("description", block)] := by
  refine hclassed.find? (by simp [named, Option.mem_def.mp hblock]) ?_
  rw [hshows.description_alone block hblock]
  rfl

theorem find?_favicon (hnested : c.Nested) :
    c.favicon.toMarkup.find? (s.isPart wanted) = List.lookup wanted [("favicon", c.favicon)] := by
  refine hclassed.find? (by simp [named]) ?_
  rw [hnested.favicon]
  rfl

theorem find?_hostname (hshows : c.Shows p icon) :
    c.hostname.toMarkup.find? (s.isPart wanted) = List.lookup wanted [("hostname", c.hostname)] := by
  refine hclassed.find? (by simp [named]) ?_
  rw [hshows.hostname]
  rfl

/-- The image in its block has no class, so nothing is found in the block but the block. -/
theorem find?_image (hshows : c.Shows p icon) {block : Element} (hblock : block ∈ c.image?) :
    block.toMarkup.find? (s.isPart wanted) = List.lookup wanted [("image", block)] := by
  refine hclassed.find? (by simp [named, Option.mem_def.mp hblock]) ?_
  obtain ⟨img, halone, -, hnothing, hclass, -⟩ := hshows.image_alone block hblock
  have himg : s.isPart wanted img = false := by
    rw [CardStyle.isPart, hclass]
    rfl
  rw [halone, Markup.findIn?, Element.toMarkup, Markup.find?, himg, hnothing]
  rfl

variable (hnested : c.Nested) (hshows : c.Shows p icon)
include hnested hshows

/-- In the line at the end the icon comes before the host. -/
theorem find?_link : c.link.toMarkup.find? (s.isPart wanted) =
    List.lookup wanted [("link", c.link), ("favicon", c.favicon), ("hostname", c.hostname)] := by
  refine hclassed.find? (by simp [named]) ?_
  rw [hnested.link, Markup.findIn?, Markup.findIn?, Markup.findIn?, find?_favicon hclassed hnested,
    find?_hostname hclassed hshows, Option.or_none, ← List.lookup_append]
  rfl

/-- In the text column the title comes before the description, and the line at the end is last. -/
theorem find?_info : c.info.toMarkup.find? (s.isPart wanted) =
    List.lookup wanted (("info", c.info) :: ("title", c.title) :: (c.description?.toList.map ("description", ·) ++
      [("link", c.link), ("favicon", c.favicon), ("hostname", c.hostname)])) := by
  refine hclassed.find? (by simp [named]) ?_
  rw [hnested.info, Markup.findIn?, Markup.findIn?_append, find?_title hclassed hshows,
    findIn?_toList fun _ => find?_description hclassed hshows, Markup.findIn?, Markup.findIn?, Option.or_none,
    find?_link hclassed hnested hshows, ← List.lookup_append, ← List.lookup_append]
  rfl

/-- What is found in the content by a class is the part of that name, whatever is looked for. -/
theorem findByClass?_container (wanted : String) :
    c.container.findByClass? (s.className wanted) = List.lookup wanted c.named := by
  -- From the inside out: what is found in a part is what is found in the nodes that stand in it.
  refine hclassed.find? (by simp [named]) ?_
  rw [hnested.container, Markup.findIn?, find?_info hclassed hnested hshows,
    findIn?_toList fun _ => find?_image hclassed hshows, ← List.lookup_append]
  rfl

end

/-! ## Texts -/

/-- A block that is left out has no text. -/
theorem textContentAll_toList (block? : Option Element) :
    Markup.textContentAll (block?.toList.map Element.toMarkup) = (block?.map Element.textContent).getD "" := by
  cases block? with
  | none => rfl
  | some block => exact String.append_empty

/-- A description that is empty has no text either. -/
theorem textContentAll_description (h : c.Shows p icon) :
    Markup.textContentAll (c.description?.toList.map Element.toMarkup) = p.description.getD "" := by
  rw [textContentAll_toList, h.description]
  cases p.description with
  | none => rfl
  | some d => by_cases hd : d = "" <;> simp [hd, Option.filter_some]

/-- The block of the image has none either, as an image has no content. -/
theorem textContentAll_image (h : c.Shows p icon) :
    Markup.textContentAll (c.image?.toList.map Element.toMarkup) = "" := by
  rw [textContentAll_toList]
  cases himage : c.image? with
  | none => rfl
  | some block =>
    obtain ⟨img, hblock, -, hnothing, -⟩ := h.image_alone block himage
    have hblock : block.textContent = img.textContent ++ "" := congrArg Markup.textContentAll hblock
    have himg : img.textContent = "" := congrArg Markup.textContentAll hnothing
    rw [Option.map_some, Option.getD_some, hblock, himg, String.append_empty]

/-- The text of the content: title, description and host, and nothing else. -/
theorem textContent_container (hnested : c.Nested) (hshows : c.Shows p icon) :
    c.container.textContent = p.title.getD "" ++ p.description.getD "" ++ p.hostText := by
  have hcontainer : c.container.textContent =
      c.info.textContent ++ Markup.textContentAll (c.image?.toList.map Element.toMarkup) :=
    congrArg Markup.textContentAll hnested.container
  have hinfo : c.info.textContent =
      c.title.textContent ++ (p.description.getD "" ++ (c.link.textContent ++ "")) := by
    rw [← textContentAll_description hshows]
    exact (congrArg Markup.textContentAll hnested.info).trans
      (congrArg (c.title.textContent ++ ·) (Markup.textContentAll_append _ _))
  have htitle : c.title.textContent = p.title.getD "" := by
    rw [Element.textContent, hshows.title]
    cases p.title with
    | none => rfl
    | some t => exact String.append_empty
  have hhost : c.hostname.textContent = p.hostText :=
    (congrArg Markup.textContentAll hshows.hostname).trans String.append_empty
  -- The icon is an image, so the text of the link is the host alone.
  have hlink : c.link.textContent = p.hostText := by
    have hboth : c.link.textContent = c.favicon.textContent ++ (c.hostname.textContent ++ "") :=
      congrArg Markup.textContentAll hnested.link
    have hfavicon : c.favicon.textContent = "" := congrArg Markup.textContentAll hnested.favicon
    rw [hboth, hfavicon, hhost, String.append_empty, String.empty_append]
  rw [hcontainer, textContentAll_image hshows, hinfo, htitle, hlink, String.append_empty, String.append_empty,
    String.append_assoc]

end CardParts

namespace CardStyle

/-! ## The parts of a card -/

theorem present_eq (text : Option String) : present text = text.filter (· ≠ "") := by
  cases text <;> simp [present, Option.filter_some]

/-- The parts of the content of a card with the text that stands for its icon. -/
def parts (s : CardStyle) (p : Preview) (icon : String) : CardParts :=
  let title := s.blockElement "div" "title" [p.title.map .text]
  let description? := (present p.description).map fun d => s.blockElement "div" "description" [some (.text d)]
  let favicon := (s.favicon p icon).element?.get rfl
  let hostname := s.blockElement "span" "hostname" [some (.text (p.hostname?.getD ""))]
  let link := s.blockElement "div" "link" [some favicon.toMarkup, some hostname.toMarkup]
  let info := s.blockElement "div" "info"
    [some title.toMarkup, description?.map Element.toMarkup, some link.toMarkup]
  let image? := (present p.image.src).map fun src => s.blockElement "div" "image" [some (s.image src p.image.alt)]
  let container := s.blockElement "div" "container" [some info.toMarkup, image?.map Element.toMarkup]
  { container, info, title, description?, link, favicon, hostname, image? }

/-- The content of a card is the outermost of its parts, with the others inside. -/
theorem content_eq (s : CardStyle) (p : Preview) (icon : String) :
    s.content p icon = [(s.parts p icon).container.toMarkup] := by
  simp only [parts, Option.map_map]
  rfl

/-- The icon is an image with a class of its own. -/
theorem parts_favicon (s : CardStyle) (p : Preview) (icon : String) :
    ∃ properties : Properties, (s.parts p icon).favicon = ⟨"img", properties, []⟩ ∧
      properties.entries = [("class", .text (s.className "favicon")), ("src", .ofText? p.favicon),
        ("alt", .text icon)] ++ s.imageProperties := by
  obtain ⟨properties, hfavicon, hentries⟩ := s.favicon_eq p icon
  exact ⟨properties, by simp only [parts, hfavicon, Markup.element?, Option.get_some], hentries⟩

/-- How the parts stand in one another does not depend on the preview. -/
theorem nested_parts (s : CardStyle) (p : Preview) (icon : String) : (s.parts p icon).Nested where
  container := by
    simp only [parts]
    cases present p.image.src <;> rfl
  info := by
    simp only [parts]
    cases present p.description <;> rfl
  link := rfl
  favicon := rfl

/-- The parts show the preview that they are made of. -/
theorem shows_parts (s : CardStyle) (p : Preview) (icon : String) : (s.parts p icon).Shows p icon where
  title := by
    simp only [parts]
    cases p.title <;> rfl
  description := by
    rw [← present_eq]
    simp only [parts]
    cases present p.description with
    | none => rfl
    | some d => exact congrArg some String.append_empty
  description_alone := by
    intro block hblock
    obtain ⟨d, -, rfl⟩ := Option.map_eq_some_iff.mp hblock
    exact congrArg (fun t => [Markup.text t]) String.append_empty.symm
  hostname := by
    rw [← p.hostname?_getD]
    rfl
  favicon := by
    obtain ⟨properties, hfavicon, hentries⟩ := s.parts_favicon p icon
    rw [hfavicon]
    refine ⟨rfl, ?_, ?_⟩
    · rw [Properties.get?, hentries]
      cases p.favicon <;> rfl
    · rw [Properties.get?, hentries]
      rfl
  image := by
    simp only [parts, Option.isSome_map, present_eq, Option.isSome_iff_exists, Option.filter_eq_some_iff,
      decide_eq_true_eq]
  image_alone := by
    intro block hblock
    obtain ⟨src, hsrc, rfl⟩ := Option.map_eq_some_iff.mp hblock
    -- The block is there only if the address is not empty, and shows that address.
    obtain ⟨properties, himage, hentries⟩ := s.image_eq src p.image.alt
    rw [present_eq] at hsrc
    rw [(Option.filter_eq_some_iff.mp hsrc).1]
    refine ⟨⟨"img", properties, []⟩, congrArg (fun m => [m]) himage, rfl, rfl, getText?_of_entries hentries "class",
      ?_, ?_⟩
    · rw [Properties.get?, hentries]
      rfl
    · rw [Properties.get?, hentries]
      cases p.image.alt <;> rfl

/-- Each part has the class of its name. -/
theorem classed_parts (s : CardStyle) (p : Preview) (icon : String) : (s.parts p icon).Classed s := by
  intro x hx
  simp only [CardParts.named, List.mem_cons, List.mem_append, List.mem_map, Option.mem_toList, List.not_mem_nil,
    or_false] at hx
  -- One case for each name; the two blocks that may be left out stand under a `map`.
  obtain rfl | rfl | rfl | (⟨block, hblock, rfl⟩ | rfl | rfl | rfl) | ⟨block, hblock, rfl⟩ := hx
  · rfl
  · rfl
  · rfl
  · obtain ⟨d, -, rfl⟩ := Option.map_eq_some_iff.mp hblock
    rfl
  · rfl
  · obtain ⟨properties, hfavicon, hentries⟩ := s.parts_favicon p icon
    rw [hfavicon]
    exact getText?_of_entries hentries "class"
  · rfl
  · obtain ⟨src, -, rfl⟩ := Option.map_eq_some_iff.mp hblock
    rfl

/-! ## What is found in a card -/

/-- The card itself has no class of a part, so what is found in it is found in its content. -/
theorem findByClass?_card (s : CardStyle) (p : Preview) (icon part : String) :
    (s.card p icon).findByClass? (s.className part) = List.lookup part (s.parts p icon).named := by
  have hclass : (s.card p icon).class? = some s.classPrefix := getText?_of_entries (s.entries_properties p) "class"
  have hpart : s.isPart part (s.card p icon) = false := by
    rw [isPart, hclass]
    simpa using s.classPrefix_ne_className part
  -- The class of the whole card ends where those of the parts go on.
  have hinside : (s.card p icon).findByClass? (s.className part) =
      (s.parts p icon).container.findByClass? (s.className part) := by
    show Markup.find? (s.isPart part) (s.card p icon).toMarkup = _
    rw [Element.toMarkup, Markup.find?, hpart, card, content_eq]
    exact Option.or_none
  exact hinside.trans (CardParts.findByClass?_container (s.classed_parts p icon) (s.nested_parts p icon)
    (s.shows_parts p icon) part)

/-- The block of the description shows a description that is not empty. -/
theorem shownDescription?_card (s : CardStyle) (p : Preview) (icon : String) :
    s.shownDescription? (s.card p icon) = present p.description := by
  rw [shownDescription?, findByClass?_card, (s.parts p icon).foundBy_lookup_named.description,
    (s.shows_parts p icon).description, present_eq]

/-- The block of the image shows the address and the text of the preview, if there is an address. -/
theorem shownImage?_card (s : CardStyle) (p : Preview) (icon : String) :
    s.shownImage? (s.card p icon) = (present p.image.src).map fun src => { src := some src, alt := p.image.alt } := by
  have hblock : (s.parts p icon).image? =
      (present p.image.src).map fun src => s.blockElement "div" "image" [some (s.image src p.image.alt)] := rfl
  rw [shownImage?, findByClass?_card, (s.parts p icon).foundBy_lookup_named.image, hblock]
  -- Without an address there is no block to look into.
  cases present p.image.src with
  | none => rfl
  | some src =>
    obtain ⟨properties, himage, hentries⟩ := s.image_eq src p.image.alt
    have hfound : (s.blockElement "div" "image" [some (s.image src p.image.alt)]).findByTag? "img" =
        some ⟨"img", properties, []⟩ := by
      rw [himage]
      rfl
    have halt : properties.getText? "alt" = p.image.alt := by
      rw [getText?_of_entries hentries]
      cases p.image.alt <;> rfl
    simp only [Option.map_some, hfound, Option.bind_some, getText?_of_entries hentries "src", halt]
    rfl

/-- **The content of cards.** Whatever all classes begin with, and whatever text stands for the icon, the content of a
card is one element. Its parts stand in one another with nothing beside them, and each is found by its class: all but
the description and the image always, these two exactly if the preview has a description and an address of an image
that are not empty. They show what the preview says. The text of the content is the title, the description and the
host one after another, whichever of them are there. The properties have a `target` and a `rel` if the card opens in a
new tab, and neither of them if it does not. -/
theorem content_in_parts (s : CardStyle) (p : Preview) :
    (s.children p = (s.faviconAlt p).map fun icon => [(s.parts p icon).container.toMarkup]) ∧
      (∀ icon,
        let card := s.parts p icon
        card.FoundBy (fun part => card.container.findByClass? (s.className part)) ∧ card.Nested ∧
          card.Shows p icon ∧
          card.container.textContent = p.title.getD "" ++ p.description.getD "" ++ p.hostText) ∧
      ((s.properties p).get? "target" = if s.openInNewTab then some (.text "_blank") else none) ∧
      (s.properties p).get? "rel" = if s.openInNewTab then some (.text "noopener noreferrer") else none := by
  refine ⟨?_, fun icon => ?_, ?_, ?_⟩
  · exact congrArg (Attempt.map · (s.faviconAlt p)) (funext (s.content_eq p))
  · have hnested := s.nested_parts p icon
    have hshows := s.shows_parts p icon
    have hfind : (fun part => (s.parts p icon).container.findByClass? (s.className part)) =
        fun part => List.lookup part (s.parts p icon).named :=
      funext (CardParts.findByClass?_container (s.classed_parts p icon) hnested hshows)
    refine ⟨?_, hnested, hshows, CardParts.textContent_container hnested hshows⟩
    rw [hfind]
    exact (s.parts p icon).foundBy_lookup_named
  · rw [Properties.get?, entries_properties]
    cases s.openInNewTab <;> rfl
  · rw [Properties.get?, entries_properties]
    cases s.openInNewTab <;> rfl

end CardStyle

end LinkEmbed
