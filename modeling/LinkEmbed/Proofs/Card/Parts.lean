import LinkEmbed.Card
import LinkEmbed.Proofs.Properties.Merge

/-!
# Parts of cards

The parts of a card are told apart by their class, whatever all classes begin with.

* `CardStyle.className_inj` — different parts have different classes.
* `CardStyle.find?_of_class?` — an element with the class of a part is that part, and else a part is looked for
  inside it.
* `CardStyle.entries_properties`, `CardStyle.favicon_eq`, `CardStyle.image_eq` — the properties of a card and of the
  images in it, in order.
-/

namespace LinkEmbed.CardStyle

variable {s : CardStyle} {part wanted : String}

/-- The card of a preview with the text that stands for its icon. -/
def card (s : CardStyle) (p : Preview) (icon : String) : Element := ⟨"a", s.properties p, s.content p icon⟩

/-- A card is only shown if the text that stands for its icon is there. -/
theorem element_eq (s : CardStyle) (p : Preview) : s.element p = (s.faviconAlt p).map (s.card p) := by
  rw [element, children]
  cases s.faviconAlt p <;> rfl

/-- The text of the description in a card, if there is a block for it. -/
def shownDescription? (s : CardStyle) (card : Element) : Option String :=
  (card.findByClass? (s.className "description")).map Element.textContent

/-- The image in a card, if there is a block for it. -/
def shownImage? (s : CardStyle) (card : Element) : Option PreviewImage :=
  (card.findByClass? (s.className "image")).map fun block =>
    let image := block.findByTag? "img"
    { src := image.bind (·.properties.getText? "src"), alt := image.bind (·.properties.getText? "alt") }

/-! ## Classes -/

theorem className_inj : s.className part = s.className wanted ↔ part = wanted := by
  rw [className, className, String.append_right_inj]

/-- The class of the whole card is none of those of its parts. -/
theorem classPrefix_ne_className (s : CardStyle) (part : String) : s.classPrefix ≠ s.className part := by
  intro h
  have hlength := congrArg String.length h
  have hmark : "__".length = 2 := by decide
  simp only [className, String.length_append] at hlength
  omega

/-- Whether an element has the class of a part. -/
def isPart (s : CardStyle) (part : String) (e : Element) : Bool := e.class? == some (s.className part)

theorem isPart_of_class? {e : Element} (h : e.class? = some (s.className part)) :
    s.isPart wanted e = true ↔ part = wanted := by
  rw [isPart, h, beq_iff_eq, Option.some.injEq, className_inj]

/-- An element of a card is the part that is looked for, or the part is looked for inside it. -/
theorem find?_of_class? {e : Element} (h : e.class? = some (s.className part)) :
    e.toMarkup.find? (s.isPart wanted) =
      if part = wanted then some e else Markup.findIn? (s.isPart wanted) e.children := by
  rw [Element.toMarkup, Markup.find?]
  simp only [isPart_of_class? h]

/-- The element that a block is. -/
def blockElement (s : CardStyle) (tag part : String) (children : List (Option Markup)) : Element :=
  .ofChildren tag (.ofList [("class", .text (s.className part))]) children

/-! ## Properties of the elements -/

/-- A card is a link to the page with the class that all others begin with; in a new tab it has a target and a
relation as well. -/
theorem entries_properties (s : CardStyle) (p : Preview) :
    (s.properties p).entries = [("class", .text s.classPrefix), ("href", .text p.url)] ++
      if s.openInNewTab then [("target", .text "_blank"), ("rel", .text "noopener noreferrer")] else [] := by
  refine Properties.entries_ofList ?_
  cases s.openInNewTab
  · exact show ["class", "href"].Nodup by decide
  · exact show ["class", "href", "target", "rel"].Nodup by decide

theorem favicon_eq (s : CardStyle) (p : Preview) (icon : String) :
    ∃ properties, s.favicon p icon = .element "img" properties [] ∧
      properties.entries = [("class", .text (s.className "favicon")), ("src", .ofText? p.favicon),
        ("alt", .text icon)] ++ s.imageProperties :=
  ⟨_, rfl, Properties.entries_ofList (show ["class", "src", "alt", "loading", "decoding"].Nodup by decide)⟩

/-- The image in its block has no class. -/
theorem image_eq (s : CardStyle) (src : String) (alt : Option String) :
    ∃ properties, s.image src alt = .element "img" properties [] ∧
      properties.entries = [("src", .text src), ("alt", .ofText? alt)] ++ s.imageProperties :=
  ⟨_, rfl, Properties.entries_ofList (show ["src", "alt", "loading", "decoding"].Nodup by decide)⟩

theorem getText?_of_entries {properties : Properties} {es : List (String × Scalar)} (h : properties.entries = es)
    (k : String) : properties.getText? k = (es.lookup k).bind Scalar.text? := by
  rw [Properties.getText?, Properties.get?, h]

end LinkEmbed.CardStyle
