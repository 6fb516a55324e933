import LinkEmbed.OEmbed.Preset
import LinkEmbed.Transformer.Basic
import LinkEmbed.Transformer.Memory

/-!
# Links as oEmbed documents

The transformer that takes every page with an oEmbed document and shows what the document says. The first
provider that applies to a page is the only one asked; without one the page itself is.
-/

namespace LinkEmbed

/-- How documents are shown, and who knows pages. -/
structure OEmbedDocuments where
  fetcher : Fetcher Metadata
  preset : OEmbedPreset := .standard

namespace OEmbedDocuments

/-- The name of the transformer. -/
def name : String := "oembed"

/-- Ask for the document of a page. -/
def lookup (d : OEmbedDocuments) (i : Nat) (u : Url) (m : Memory) : Outcome (Option OEmbed) × Memory :=
  match d.preset.provider? u with
  | .panicked message => (.panicked message, m)
  | .value (some (k, p)) => m.ask p.fetch ⟨i, some k, u⟩
  | .value none =>
    let (answer, m) := m.ask d.fetcher ⟨i, none, u⟩
    (answer.bind fun page =>
      match page with
      | some p => .ofExcept (p.document? u)
      | none => .value none, m)

/-- Decide whether a page has a document. -/
def accepts (d : OEmbedDocuments) (i : Nat) (u : Url) (m : Memory) : Outcome Bool × Memory :=
  let (answer, c, m) := (m.documents i).getOrFetch u (d.lookup i u) m
  (answer.map CacheEntry.isFound, m.setDocuments i c)

/-- The element for a page whose document is known, and an empty block otherwise. -/
def element (d : OEmbedDocuments) (i : Nat) (u : Url) (m : Memory) : Attempt Element :=
  match ((m.documents i).get? u).bind CacheEntry.toOption with
  | some document => d.preset.element u document
  | none => .value { tag := "div" }

/-- The transformer, as number `i`. -/
def transformer (d : OEmbedDocuments) (i : Nat) : Transformer Memory :=
  { name
    accepts := d.accepts i
    tagName := fun u m => ((d.element i u m).map Element.tag).toOutcome
    properties := fun u m => ((d.element i u m).map Element.properties).toOutcome
    children := fun u m => ((d.element i u m).map Element.children).toOutcome }

end OEmbedDocuments

end LinkEmbed
