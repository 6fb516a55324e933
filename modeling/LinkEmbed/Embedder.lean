import LinkEmbed.Resolve
import LinkEmbed.Transformer.Document
import LinkEmbed.Transformer.LinkCard

/-!
# Embedders

An ordered list of ways to embed links, put to work on documents one after another. Every way remembers
what it learned from one document to the next.
-/

namespace LinkEmbed

/-- A way to embed links. -/
inductive Strategy where
  | documents (documents : OEmbedDocuments)
  | cards (cards : LinkCards)
  | custom (custom : CustomTransformer)

namespace Strategy

/-- The name in diagnostics. -/
def name : Strategy → String
  | .documents _ => OEmbedDocuments.name
  | .cards _ => LinkCards.name
  | .custom c => c.name

/-- The transformer, as number `i`. -/
def transformer (s : Strategy) (i : Nat) : Transformer Memory :=
  match s with
  | .documents d => d.transformer i
  | .cards c => c.transformer i
  | .custom c => c.transformer

/-- The number of pages that the strategy with number `i` knows something of. -/
def cached (s : Strategy) (i : Nat) (m : Memory) : Nat :=
  match s with
  | .documents _ => (m.documents i).size
  | .cards _ => (m.pages i).size
  | .custom _ => 0

/-- What remembers pages as text. -/
def providerText (i : Nat) (m : Memory) : String :=
  "MetadataProvider \x7b cached: " ++ toString (m.pages i).size ++ ", .. \x7d"

/-- The strategy with number `i` as text, and the part of it that answers as text. -/
def texts? (s : Strategy) (i : Nat) (m : Memory) : Option (String × String) :=
  match s with
  | .documents d =>
    some ("OEmbedTransformer \x7b options: " ++ d.preset.text ++ ", cached: " ++
      toString (m.documents i).size ++ ", .. \x7d", d.preset.text)
  | .cards _ =>
    some ("LinkCardTransformer \x7b provider: " ++ providerText i m ++ ", .. \x7d", providerText i m)
  | .custom _ => none

/-- Forget all that the strategy with number `i` knows. -/
def clear (s : Strategy) (i : Nat) (m : Memory) : Memory :=
  match s with
  | .documents _ => m.setDocuments i .empty
  | .cards _ => m.setPages i .empty
  | .custom _ => m

end Strategy

/-- Ways to embed links, and the order in which they are tried. A way that is shared stands in the order more
than once, with one memory. -/
structure Embedder where
  strategies : List Strategy := []
  order : List (Fin strategies.length) := List.finRange strategies.length

namespace Embedder

/-- The names of the strategies as they are tried. -/
def names (e : Embedder) : List String := e.order.map fun i => (e.strategies.get i).name

/-- The transformers as they are tried, each with the number of its strategy. -/
def transformers (e : Embedder) : List (Transformer Memory) :=
  e.order.map fun i => (e.strategies.get i).transformer i

/-- Embed the links of a document. -/
def run {ρ : Type} (e : Embedder) (sink : Sink ρ) (d : Document) (m : Memory) (r : ρ) : Outgoing Memory ρ :=
  d.resolve e.transformers sink m r

/-- The list of strategies as text. -/
def optionsText (e : Embedder) : String :=
  "EmbedOptions \x7b transformers: [" ++ ", ".intercalate (e.names.map Text.literal) ++ "] \x7d"

/-- The embedder as text. -/
def text (e : Embedder) : String := "Embedder \x7b options: " ++ e.optionsText ++ " \x7d"

end Embedder

end LinkEmbed
