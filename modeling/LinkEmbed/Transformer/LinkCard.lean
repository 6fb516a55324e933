import LinkEmbed.Card
import LinkEmbed.Transformer.Basic
import LinkEmbed.Transformer.Memory

/-!
# Links as cards

The transformer that takes every page of which anything is known and shows a preview of it.
-/

namespace LinkEmbed

/-- What pages are shown as, and who knows them. -/
structure LinkCards where
  fetcher : Fetcher Metadata
  preset : CardPreset

namespace LinkCards

/-- The name of the transformer. -/
def name : String := "link-card"

/-- The preview of a page that is known. -/
def preview (i : Nat) (u : Url) (m : Memory) : Outcome Preview :=
  match ((m.pages i).get? u).bind CacheEntry.toOption with
  | some page => .value (.ofMetadata u page)
  | none => .failed (.missingMetadata u.text)

/-- The transformer, as number `i`. -/
def transformer (c : LinkCards) (i : Nat) : Transformer Memory :=
  { name
    accepts := fun u m =>
      let (answer, m) := m.page i c.fetcher u
      (answer.map CacheEntry.isFound, m)
    tagName := fun u m => (preview i u m).bind fun p => (c.preset.tagName p).toOutcome
    properties := fun u m => (preview i u m).bind fun p => (c.preset.properties p).toOutcome
    children := fun u m => (preview i u m).bind fun p => (c.preset.children p).toOutcome }

end LinkCards

end LinkEmbed
