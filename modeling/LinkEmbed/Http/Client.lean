import LinkEmbed.EmbedError
import LinkEmbed.Text.Utf8
import LinkEmbed.Url.Parser

/-!
# Fetching over the network

A client over any network, which is a function from URLs to replies. Replies that lead elsewhere are
followed; a reply that is no success is an error of the URL asked for first.
-/

namespace LinkEmbed.Http

/-- What a network replies. -/
structure Reply where
  status : Nat := 200
  /-- Where the reply leads, if it leads anywhere. -/
  location : Option String := none
  body : List Nat := []

/-- A network: what it replies to a request for a URL without fragment, unless there is no reply at all. -/
abbrev Network := Url → Option Reply

/-- A network that nothing can be reached over. -/
def Network.unreachable : Network := fun _ => none

/-- The settings of a client. -/
structure Settings where
  userAgent : String := "tola-embed/0.1.0"
  /-- Whether to ask for the oEmbed document that a page points to. -/
  discover : Bool := true

/-- Whether a name can be sent in a header: it holds no controls but tabs. -/
def Settings.isValid (s : Settings) : Bool :=
  s.userAgent.toList.all fun c => c == '\t' || (c.toNat ≥ 0x20 && c.toNat != 0x7F)

/-- A client can be set up unless its name cannot be sent. -/
def Settings.check (s : Settings) : Except EmbedError Settings :=
  if s.isValid then .ok s else .error (.network .badClient)

/-- Whether requests can be made for a URL. -/
def isRequestable (u : Url) : Bool := u.scheme == "http" || u.scheme == "https"

/-- Whether a status leads elsewhere. -/
def isRedirect (status : Nat) : Bool := [301, 302, 303, 307, 308].contains status

/-- Where a reply to a request leads. -/
def Reply.target? (r : Reply) (u : Url) : Option Url :=
  if isRedirect r.status then
    r.location.bind fun l =>
      match u.join l with
      | .ok v => some v
      | .error _ => none
  else none

/-- This many replies that lead elsewhere are followed. -/
def maxRedirects : Nat := 10

/-- The last reply to a request for `u`, of which the first was for `first`. The number bounds how many
replies that lead elsewhere are still followed. -/
def follow (net : Network) (first : Url) : Nat → Url → Except NetworkFault Reply
  | left, u =>
    if !isRequestable u then .error (.badRequest first)
    else
      match net { u with fragment := none } with
      | none => .error (.unreachable first)
      | some reply =>
        match reply.target? u, left with
        | none, _ => .ok reply
        | some _, 0 => .error (.tooManyRedirects u)
        | some v, left + 1 => follow net first left v

/-- The text at a URL. -/
def getText (net : Network) (u : Url) : Except EmbedError String := do
  let reply ← (follow net u maxRedirects u).mapError .network
  if 200 ≤ reply.status ∧ reply.status < 300 then
    return Text.ofBytes (if reply.status = 204 then [] else reply.body)
  else throw (.status u.text reply.status)

end LinkEmbed.Http
