import LinkEmbed.Html.Page
import LinkEmbed.OEmbed.Provider
import LinkEmbed.OEmbed.Basic

/-!
# oEmbed documents as markup

How documents of each kind become elements, and which providers are asked for a document before the page
itself is.
-/

namespace LinkEmbed

/-- A provider that is asked about the pages it `applies` to. Its answer may depend on how many questions
were asked before. -/
structure OEmbedProvider where
  applies : Url → Attempt Bool
  fetch : Nat → Url → Outcome (Option OEmbed)

/-- How documents become elements. Renderers of markup are handed the function that reads it. -/
structure OEmbedPreset where
  /-- A change to markup before it is read. -/
  postProcess : String → Attempt String
  parseFragment : String → Attempt (List Markup)
  photo : Url → OEmbedPhoto → Attempt Element
  video : (String → Attempt (List Markup)) → Url → OEmbedVideo → Attempt Element
  rich : (String → Attempt (List Markup)) → Url → OEmbedRich → Attempt Element
  link : Url → OEmbedCommon → Attempt Element
  providers : List OEmbedProvider

namespace OEmbedPreset

/-- A photo as an image. -/
def photoElement (_ : Url) (p : OEmbedPhoto) : Element :=
  { tag := "img"
    properties := .ofList
      [("src", .text p.url), ("width", .integer p.width), ("height", .integer p.height),
        ("alt", .ofText? p.common.title), ("class", .text "oembed-photo"), ("href", .null)] }

/-- Markup in a block of a class. -/
def frame (name : String) (children : List Markup) : Element :=
  { tag := "div", properties := .ofList [("class", .text name), ("href", .null)], children }

/-- A link to the page, whose text is its URL. -/
def linkElement (u : Url) (_ : OEmbedCommon) : Element :=
  { tag := "a"
    properties := .ofList [("href", .text u.text), ("class", .text "oembed-link")]
    children := [.text u.text] }

/-- The preset that leaves everything as it comes and asks no provider. -/
def standard : OEmbedPreset :=
  { postProcess := .value
    parseFragment := fun html => .value (Html.readFragment html)
    photo := fun u p => .value (photoElement u p)
    video := fun embed _ v => (embed v.html).map (frame "oembed-video")
    rich := fun embed _ r => (embed r.html).map (frame "oembed-rich")
    link := fun u c => .value (linkElement u c)
    providers := [] }

instance : Inhabited OEmbedPreset := ⟨standard⟩

/-- The first of some providers that applies to a page, with its index; the first of the list has index
`i`. The providers after it are not asked whether they apply. -/
def firstApplying (u : Url) (i : Nat) : List OEmbedProvider → Attempt (Option (Nat × OEmbedProvider))
  | [] => .value none
  | p :: ps => (p.applies u).bind fun b => if b then .value (some (i, p)) else firstApplying u (i + 1) ps

/-- The first provider that applies to a page, with its index. -/
def provider? (p : OEmbedPreset) (u : Url) : Attempt (Option (Nat × OEmbedProvider)) :=
  firstApplying u 0 p.providers

/-- Read markup. -/
def embed (p : OEmbedPreset) (html : String) : Attempt (List Markup) :=
  (p.postProcess html).bind p.parseFragment

/-- The element of a document about the page at `u`. -/
def element (p : OEmbedPreset) (u : Url) : OEmbed → Attempt Element
  | .photo d => p.photo u d
  | .video d => p.video p.embed u d
  | .rich d => p.rich p.embed u d
  | .link c => p.link u c

/-- The preset as text. -/
def text (p : OEmbedPreset) : String :=
  "OEmbedOptions \x7b providers: " ++ toString p.providers.length ++ ", .. \x7d"

end OEmbedPreset

end LinkEmbed
