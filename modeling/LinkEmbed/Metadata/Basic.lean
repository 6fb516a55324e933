import LinkEmbed.EmbedError
import LinkEmbed.OEmbed.Decode

/-!
# Metadata

What a page says about itself: its title and description, its icon, what it tells Open Graph and Twitter
Card readers, and its oEmbed document as it came.
-/

namespace LinkEmbed

/-- An image that a page shows for itself. -/
structure MetaImage where
  url : String := ""
  alt : Option String := none
deriving DecidableEq, Repr, Inhabited

/-- What a page tells Open Graph readers. -/
structure OpenGraph where
  title : Option String := none
  description : Option String := none
  url : Option String := none
  images : List MetaImage := []
deriving DecidableEq, Repr, Inhabited

/-- What a page tells Twitter Card readers. -/
structure TwitterCard where
  title : Option String := none
  description : Option String := none
  images : List MetaImage := []
deriving DecidableEq, Repr, Inhabited

/-- What is known of a page. -/
structure Metadata where
  title : Option String := none
  description : Option String := none
  /-- The absolute URL of the icon. -/
  favicon : Option String := none
  openGraph : OpenGraph := {}
  twitterCard : TwitterCard := {}
  /-- The oEmbed document as it came, not looked at yet. -/
  oembed : Option Json := none

instance : Inhabited Metadata := ⟨{}⟩

/-- The oEmbed document of the page at `url`: none if there is none, and an error if it has no form that is
known. -/
def Metadata.document? (m : Metadata) (url : Url) : Except EmbedError (Option OEmbed) :=
  match m.oembed with
  | none => .ok none
  | some .null => .ok none
  | some v => ((OEmbed.ofJson v).map some).mapError fun e => .malformed url.text e.message

end LinkEmbed
