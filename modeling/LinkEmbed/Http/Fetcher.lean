import LinkEmbed.Http.Client
import LinkEmbed.Metadata.Extract
import LinkEmbed.OEmbed.Provider
import LinkEmbed.OEmbed.Decode
import LinkEmbed.Transformer.Memory

/-!
# Pages over the network

Fetching a page with what it says about itself, the oEmbed document it points to included, and asking a
provider about a page.
-/

namespace LinkEmbed.Http

/-- The oEmbed document at an endpoint, if there is any. Whatever goes wrong on the way, there is none. -/
def discover (get : Url → Except EmbedError String) (endpoint : Url) : Option Json :=
  match get endpoint with
  | .error _ => none
  | .ok body =>
    match Json.parse body with
    | .ok v => some v
    | .error _ => none

/-- What is known of a page, where `get` gives the text at a URL. -/
def fetchPage (get : Url → Except EmbedError String) (discovery : Bool) (u : Url) :
    Except EmbedError (Option Metadata) := do
  let page := ExtractedPage.ofHtml (← get u) u
  match discovery, page.endpoint with
  | true, some endpoint =>
    match discover get endpoint with
    | some v => return some { page.metadata with oembed := some v }
    | none => return some page.metadata
  | _, _ => return some page.metadata

/-- The document that an endpoint gives for a page. -/
def fetchDocument (get : Url → Except EmbedError String) (endpoint : String) (u : Url) :
    Except EmbedError (Option OEmbed) := do
  let request ← oembedRequest endpoint u
  match OEmbed.ofText (← get request) with
  | .ok d => return some d
  | .error e => throw (.malformed u.text e.message)

/-- Whoever fetches pages over the network, where `get` gives the text at a URL. -/
def pageFetcher (get : Url → Except EmbedError String) (discovery : Bool) : Fetcher Metadata :=
  .ofUrl fun u => .ofExcept (fetchPage get discovery u)

end LinkEmbed.Http
