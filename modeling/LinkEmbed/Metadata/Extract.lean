import LinkEmbed.Html.Page
import LinkEmbed.Metadata.Basic
import LinkEmbed.Url.Parser

/-!
# Metadata in pages

Finding out what a page says about itself. Of several tags that say the same the first that says anything
counts: blank texts do not, and white space around a text is dropped. Addresses are resolved against the
page's own.
-/

namespace LinkEmbed

/-- What a page says about itself, and where its oEmbed document is. -/
structure ExtractedPage where
  metadata : Metadata
  endpoint : Option Url

namespace Html

/-- Texts of HTML attributes that are compared without regard to case are so in elements of HTML only. -/
def Found.sameText (e : Found) (wanted given : String) : Bool :=
  if e.name.vocabulary = .html then given.map Char.toLower == wanted.map Char.toLower else given == wanted

/-- The words of an attribute value. -/
def attributeWords (s : String) : List String :=
  ((Text.splitWhere (fun c => Lexer.isBlank c || c == '\r') s.toList).filter (!·.isEmpty)).map String.ofList

/-- Whether an element is a link to an icon. -/
def Found.isIcon (e : Found) : Bool :=
  e.name.name == "link" &&
    match e.value? "rel" with
    | some rel => (attributeWords rel).any (e.sameText "icon")
    | none => false

/-- Whether an element is a link to an oEmbed document. -/
def Found.isDiscovery (e : Found) : Bool :=
  e.name.name == "link" &&
    match e.value? "type" with
    | some type => e.sameText "application/json+oembed" type
    | none => false

/-- Whether an element says something under a name. -/
def Found.isMeta (key name : String) (e : Found) : Bool :=
  e.name.name == "meta" && e.value? key == some name

/-- The value of an attribute, unless it is blank. -/
def Found.nonBlank? (key : String) (e : Found) : Option String := (e.value? key).bind Text.nonBlank

/-- The first value of an attribute that is not blank, among the elements that satisfy `p`. -/
def firstValue? (elements : List Found) (p : Found → Bool) (key : String) : Option String :=
  (elements.filter p).findSome? (Found.nonBlank? key)

/-- What elements say under a name. -/
def metaContent? (elements : List Found) (key name : String) : Option String :=
  firstValue? elements (Found.isMeta key name) "content"

end Html

namespace ExtractedPage

open Html (Found)

/-- Resolve an address against that of a page. -/
def resolve? (page : Url) (reference : String) : Option String :=
  match page.join reference with
  | .ok u => some u.text
  | .error _ => none

/-- Give the last of some images a description. -/
def describeLast (alt : String) : List MetaImage → List MetaImage
  | [] => []
  | [i] => [{ i with alt := some alt }]
  | i :: r => i :: describeLast alt r

/-- What one tag adds to the images before it. An image whose address cannot be resolved is left out, and a
description belongs to the image before it. -/
def addImageTag (page : Url) (family : String) (images : List MetaImage) (key content : String) :
    List MetaImage :=
  if key = family ∨ key = family ++ ":url" then
    match resolve? page content with
    | some url => images ++ [{ url }]
    | none => images
  else if key = family ++ ":alt" then describeLast content images
  else images

/-- The images of a family of tags, in the order of the page. -/
def images (page : Url) (elements : List Found) (key family : String) : List MetaImage :=
  elements.foldl (fun images e =>
    match e.name.name == "meta", e.value? key, e.nonBlank? "content" with
    | true, some name, some content => addImageTag page family images name content
    | _, _, _ => images) []

/-- The title of a page. -/
def title? (t : Html.Tree) (elements : List Found) : Option String :=
  (elements.find? fun e => e.name.name == "title").bind fun e => Text.nonBlank (t.textOf t.size e.node)

/-- What the elements of a page say about it. -/
def ofElements (title : Option String) (elements : List Found) (page : Url) : ExtractedPage :=
  { metadata :=
      { title
        description := Html.metaContent? elements "name" "description"
        favicon := (Html.firstValue? elements Found.isIcon "href").bind (resolve? page)
        openGraph :=
          { title := Html.metaContent? elements "property" "og:title"
            description := Html.metaContent? elements "property" "og:description"
            url := (Html.metaContent? elements "property" "og:url").bind (resolve? page)
            images := images page elements "property" "og:image" }
        twitterCard :=
          { title := Html.metaContent? elements "name" "twitter:title"
            description := Html.metaContent? elements "name" "twitter:description"
            images := images page elements "name" "twitter:image" } }
    endpoint := (Html.firstValue? elements Found.isDiscovery "href").bind fun href =>
      match page.join href with
      | .ok u => some u
      | .error _ => none }

/-- What the page at a URL says about itself. -/
def ofHtml (html : String) (page : Url) : ExtractedPage :=
  let t := Html.readPage html
  let elements := t.elements
  ofElements (title? t elements) elements page

end ExtractedPage

end LinkEmbed
