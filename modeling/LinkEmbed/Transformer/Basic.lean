import LinkEmbed.Capability
import LinkEmbed.Markup.Basic

/-!
# Transformers

Ways to embed links. A transformer first decides whether it takes a URL and then gives the parts of the
embed. What transformers remember is a state that deciding may change and rendering only reads.
-/

namespace LinkEmbed

/-- A way to embed links, over what transformers remember. -/
structure Transformer (σ : Type) where
  /-- The name in diagnostics. -/
  name : String
  accepts : Url → σ → Outcome Bool × σ
  tagName : Url → σ → Outcome String
  properties : Url → σ → Outcome Properties
  children : Url → σ → Outcome (List Markup)

/-- The parts of an embed. -/
structure Rendering where
  tag : String
  properties : Properties
  children : List Markup

/-- All parts of the embed of a URL, or the first error on the way. -/
def Transformer.render {σ : Type} (t : Transformer σ) (u : Url) (s : σ) : Except EmbedError Rendering := do
  let tag ← (t.tagName u s).guarded
  let properties ← (t.properties u s).guarded
  let children ← (t.children u s).guarded
  return { tag, properties, children }

/-- A transformer made of capabilities, which remembers nothing. -/
structure CustomTransformer where
  name : String
  accepts : Capability Bool
  tagName : Capability String
  properties : Capability Properties := .constant .empty
  children : Capability (List Markup) := .constant []

/-- A transformer made of capabilities, over any memory. -/
def CustomTransformer.transformer {σ : Type} (c : CustomTransformer) : Transformer σ :=
  { name := c.name
    accepts := fun u s => (c.accepts.evaluate u, s)
    tagName := fun u _ => c.tagName.evaluate u
    properties := fun u _ => c.properties.evaluate u
    children := fun u _ => c.children.evaluate u }

end LinkEmbed
