import LinkEmbed.EmbedError
import LinkEmbed.Url.Parser

/-!
# Providers

Which URLs belong to a provider that is asked directly, and the request that asks it.
-/

namespace LinkEmbed

/-- The hosts of the status provider. -/
def statusHosts : List String :=
  ["twitter.com", "www.twitter.com", "mobile.twitter.com", "x.com", "www.x.com"]

/-- Whether a URL is the page of one status: a user, the word for statuses, and a number. -/
def Url.isTwitterStatus (u : Url) : Bool :=
  (u.scheme == "http" || u.scheme == "https") &&
    (match u.hostText? with
      | some host => statusHosts.contains (host.map Char.toLower)
      | none => false) &&
    match (u.pathSegments?.getD []).filter (!·.isEmpty) with
    | _ :: word :: number :: _ =>
      (word == "status" || word == "statuses") && !number.isEmpty && number.toList.all Char.isDigit
    | _ => false

/-- Where the status provider answers. -/
def statusEndpoint : String := "https://publish.twitter.com/oembed"

/-- The request that asks an endpoint about a page. -/
def oembedRequest (endpoint : String) (page : Url) : Except EmbedError Url :=
  match Url.parse endpoint with
  | .ok u => .ok (u.addQueryField "url" page.text)
  | .error e => .error (.invalidUrl endpoint e)

end LinkEmbed
