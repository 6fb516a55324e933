import LinkEmbed.Metadata.Basic
import LinkEmbed.Json.Record

/-!
# Metadata as JSON

Reading metadata from JSON values and texts, and writing it. Any field may be left out.
-/

namespace LinkEmbed

open Json (RecordField Origin Source readRecord readList)

/-- Images. -/
def MetaImage.ofSource (origin : Origin) : Source → Except Json.Error MetaImage :=
  readRecord origin "struct MetaImage"
    [.ofGet "url" Source.getText fun r v => { r with url := v },
      .ofGet "alt" (Source.getOptional Source.getText) fun r v => { r with alt := v }]
    {}

/-- What is said to Open Graph readers. -/
def OpenGraph.ofSource (origin : Origin) : Source → Except Json.Error OpenGraph :=
  readRecord origin "struct OpenGraph"
    [.ofGet "title" (Source.getOptional Source.getText) fun r v => { r with title := v },
      .ofGet "description" (Source.getOptional Source.getText) fun r v => { r with description := v },
      .ofGet "url" (Source.getOptional Source.getText) fun r v => { r with url := v },
      .ofGet "images" (readList (MetaImage.ofSource origin)) fun r v => { r with images := v }]
    {}

/-- What is said to Twitter Card readers. -/
def TwitterCard.ofSource (origin : Origin) : Source → Except Json.Error TwitterCard :=
  readRecord origin "struct TwitterCard"
    [.ofGet "title" (Source.getOptional Source.getText) fun r v => { r with title := v },
      .ofGet "description" (Source.getOptional Source.getText) fun r v => { r with description := v },
      .ofGet "images" (readList (MetaImage.ofSource origin)) fun r v => { r with images := v }]
    {}

namespace Metadata

/-- The oEmbed document goes by two names. -/
def oembedField : RecordField Metadata :=
  { RecordField.ofGet "oEmbed" (Source.getOptional (Source.toJson (Json.depthLimit - 1))) fun r v =>
      { r with oembed := v } with otherName := some "oembed" }

/-- Read metadata. -/
def ofSource (origin : Origin) : Source → Except Json.Error Metadata :=
  readRecord origin "struct Metadata"
    [.ofGet "title" (Source.getOptional Source.getText) fun r v => { r with title := v },
      .ofGet "description" (Source.getOptional Source.getText) fun r v => { r with description := v },
      .ofGet "favicon" (Source.getOptional Source.getText) fun r v => { r with favicon := v },
      .ofGet "open_graph" (OpenGraph.ofSource origin) fun r v => { r with openGraph := v },
      .ofGet "twitter_card" (TwitterCard.ofSource origin) fun r v => { r with twitterCard := v },
      oembedField]
    {}

/-- Read metadata from a JSON value. -/
def ofJson (v : Json) : Except Json.Error Metadata :=
  (ofSource .value (Source.ofJson v)).mapError Json.Error.withoutLocation

/-- Read metadata from a JSON text. -/
def ofText (text : String) : Except Json.Error Metadata := do
  let t := Json.SourceText.read text
  let m ← ofSource .text t.value
  Json.checkFault t.trailing
  .ok m

end Metadata

/-- An image as JSON. -/
def MetaImage.toJson (i : MetaImage) : Json := .ofFields [("url", .text i.url), ("alt", .ofText? i.alt)]

/-- Metadata as JSON, with every field. -/
def Metadata.toJson (m : Metadata) : Json :=
  .ofFields
    [("title", .ofText? m.title), ("description", .ofText? m.description), ("favicon", .ofText? m.favicon),
      ("open_graph", .ofFields
        [("title", .ofText? m.openGraph.title), ("description", .ofText? m.openGraph.description),
          ("url", .ofText? m.openGraph.url), ("images", .array (m.openGraph.images.map MetaImage.toJson))]),
      ("twitter_card", .ofFields
        [("title", .ofText? m.twitterCard.title), ("description", .ofText? m.twitterCard.description),
          ("images", .array (m.twitterCard.images.map MetaImage.toJson))]),
      ("oEmbed", m.oembed.getD .null)]

end LinkEmbed
