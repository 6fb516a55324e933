import LinkEmbed.Json.Record
import LinkEmbed.Markup.Basic
import LinkEmbed.Preview

/-!
# Cards

A preview as markup: a link around the title and description of a page, its icon and host, and its image. A
description or an image that is missing or empty leaves nothing behind.
-/

namespace LinkEmbed

/-- When the images of a card are loaded. -/
inductive ImageLoading where
  | lazy
  | eager
  | auto
deriving DecidableEq, Repr, Inhabited

/-- How the images of a card are decoded. -/
inductive ImageDecoding where
  | async
  | sync
  | auto
deriving DecidableEq, Repr, Inhabited

/-- The text of the attribute. -/
def ImageLoading.text : ImageLoading → String
  | .lazy => "lazy"
  | .eager => "eager"
  | .auto => "auto"

/-- The text of the attribute. -/
def ImageDecoding.text : ImageDecoding → String
  | .async => "async"
  | .sync => "sync"
  | .auto => "auto"

/-- The choices by the text of the attribute. -/
def ImageLoading.all : List (String × ImageLoading) := [.lazy, .eager, .auto].map fun l => (l.text, l)

/-- The choices by the text of the attribute. -/
def ImageDecoding.all : List (String × ImageDecoding) := [.async, .sync, .auto].map fun d => (d.text, d)

/-- How cards look. -/
structure CardStyle where
  /-- What all class names begin with. -/
  classPrefix : String := "link-card"
  openInNewTab : Bool := true
  /-- The text that stands for the icon. -/
  faviconAlt : Preview → Attempt String := fun p => .value ("Favicon for " ++ p.hostname?.getD "")
  imageLoading : ImageLoading := .lazy
  imageDecoding : ImageDecoding := .async

instance : Inhabited CardStyle := ⟨{}⟩

/-- How a link becomes a card: the tag, the properties and the content for a preview. -/
structure CardPreset where
  tagName : Preview → Attempt String
  properties : Preview → Attempt Properties
  children : Preview → Attempt (List Markup)

namespace CardStyle

/-- The class name of a part of the card. -/
def className (s : CardStyle) (part : String) : String := s.classPrefix ++ "__" ++ part

/-- An element with nothing but a class. -/
def block (s : CardStyle) (tag part : String) (children : List (Option Markup)) : Markup :=
  (Element.ofChildren tag (.ofList [("class", .text (s.className part))]) children).toMarkup

/-- The properties that all images share. -/
def imageProperties (s : CardStyle) : List (String × Scalar) :=
  [("loading", .text s.imageLoading.text), ("decoding", .text s.imageDecoding.text)]

/-- The icon of the page, with the text that stands for it. -/
def favicon (s : CardStyle) (p : Preview) (alt : String) : Markup :=
  .element "img"
    (.ofList ([("class", .text (s.className "favicon")), ("src", .ofText? p.favicon),
      ("alt", .text alt)] ++ s.imageProperties)) []

/-- The image of the page. -/
def image (s : CardStyle) (src : String) (alt : Option String) : Markup :=
  .element "img" (.ofList ([("src", .text src), ("alt", .ofText? alt)] ++ s.imageProperties)) []

/-- A text, unless it is empty. -/
def present (text : Option String) : Option String := text.filter fun s => !s.isEmpty

/-- What stands beside the image, around the icon. -/
def details (s : CardStyle) (p : Preview) (icon : Markup) : Markup :=
  s.block "div" "info"
    [some (s.block "div" "title" [p.title.map .text]),
      (present p.description).map fun d => s.block "div" "description" [some (.text d)],
      some (s.block "div" "link"
        [some icon, some (s.block "span" "hostname" [some (.text (p.hostname?.getD ""))])])]

/-- The content of a card, with the text that stands for its icon. -/
def content (s : CardStyle) (p : Preview) (alt : String) : List Markup :=
  let image := (present p.image.src).map fun src => s.block "div" "image" [some (s.image src p.image.alt)]
  [s.block "div" "container" [some (s.details p (s.favicon p alt)), image]]

/-- The content of a card. -/
def children (s : CardStyle) (p : Preview) : Attempt (List Markup) := (s.faviconAlt p).map (s.content p)

/-- The properties of a card. -/
def properties (s : CardStyle) (p : Preview) : Properties :=
  .ofList ([("class", .text s.classPrefix), ("href", .text p.url)] ++
    if s.openInNewTab then [("target", .text "_blank"), ("rel", .text "noopener noreferrer")] else [])

/-- Cards of a style. -/
def preset (s : CardStyle) : CardPreset :=
  { tagName := fun _ => .value "a", properties := fun p => .value (s.properties p), children := s.children }

/-- The card of a preview as an element. -/
def element (s : CardStyle) (p : Preview) : Attempt Element :=
  (s.children p).map fun children => ⟨"a", s.properties p, children⟩

/-- The fields of a style in JSON, apart from the text that stands for the icon. -/
def fields : List (Json.RecordField CardStyle) :=
  [.ofGet "class_name_prefix" Json.Source.getText fun r v => { r with classPrefix := v },
    .ofGet "open_in_new_tab" Json.Source.getBool fun r v => { r with openInNewTab := v },
    .ofGet "image_loading" (Json.Source.getName ImageLoading.all) fun r v => { r with imageLoading := v },
    .ofGet "image_decoding" (Json.Source.getName ImageDecoding.all) fun r v => { r with imageDecoding := v }]

/-- Read a style from a JSON value. -/
def ofJson (v : Json) : Except Json.Error CardStyle :=
  (Json.readRecord .value "struct HtmlPresetOptions" fields {} (Json.Source.ofJson v)).mapError
    Json.Error.withoutLocation

/-- A choice in the text of a style: its name with a capital letter. -/
def capitalized (s : String) : String := s.capitalize

/-- The style as text. -/
def text (s : CardStyle) : String :=
  "HtmlPresetOptions \x7b class_name_prefix: " ++ Text.literal s.classPrefix ++ ", open_in_new_tab: " ++
    (if s.openInNewTab then "true" else "false") ++ ", image_loading: " ++ capitalized s.imageLoading.text ++
    ", image_decoding: " ++ capitalized s.imageDecoding.text ++ ", .. \x7d"

end CardStyle

end LinkEmbed
