import LinkEmbed.Metadata.Basic
import LinkEmbed.Url.Parser

/-!
# Previews

What a card shows of a page. Each part comes from the first that has it: Open Graph, the page itself, the
Twitter Card.
-/

namespace LinkEmbed

/-- The image of a preview. -/
structure PreviewImage where
  src : Option String := none
  alt : Option String := none
deriving DecidableEq, Repr, Inhabited

/-- What a card shows of a page. -/
structure Preview where
  url : String
  title : Option String := none
  description : Option String := none
  favicon : Option String := none
  image : PreviewImage := {}
deriving DecidableEq, Repr, Inhabited

namespace Preview

/-- The preview of the page at `url`. -/
def ofMetadata (url : Url) (m : Metadata) : Preview :=
  let og := m.openGraph
  let twitter := m.twitterCard
  { url := og.url.getD url.text
    title := (og.title.or m.title).or twitter.title
    description := (og.description.or m.description).or twitter.description
    favicon := m.favicon
    image :=
      { src := (og.images.head?.map (·.url)).or (twitter.images.head?.map (·.url))
        alt := (og.images.head?.bind (·.alt)).or (twitter.images.head?.bind (·.alt)) } }

/-- The host of the URL, if it has one. -/
def hostname? (p : Preview) : Option String :=
  match Url.parse p.url with
  | .ok u => u.hostText?
  | .error _ => none

end Preview

end LinkEmbed
