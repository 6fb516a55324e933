import LinkEmbed.Text.Literal

/-!
# URLs

Absolute URLs with their parts, and the one text of each. Two URLs are the same page exactly when their
texts are equal; a fragment belongs to the text.
-/

namespace LinkEmbed

/-- A host: a name, a number of 32 bits, or eight numbers of 16 bits. The empty name is the host of a URL
that leaves it out between its slashes. -/
inductive Host where
  | name (value : String)
  | ipv4 (value : Nat)
  | ipv6 (pieces : List Nat)
deriving DecidableEq, Repr, Inhabited

/-- A path: one text that nothing can be resolved against, or segments with slashes before them. -/
inductive UrlPath where
  | opaqueText (value : String)
  | segments (list : List String)
deriving DecidableEq, Repr, Inhabited

/-- An absolute URL. All parts are in their written form, with characters that may not stand there
percent-encoded; a port that is the scheme's own is left out. -/
structure Url where
  scheme : String
  username : String := ""
  password : String := ""
  host : Option Host := none
  port : Option Nat := none
  path : UrlPath := .segments []
  query : Option String := none
  fragment : Option String := none
deriving DecidableEq, Repr, Inhabited

namespace Host

/-- The decimal bytes of a 32-bit number with points between them. -/
def ipv4Text (n : Nat) : String :=
  ".".intercalate ([(n >>> 24) % 256, (n >>> 16) % 256, (n >>> 8) % 256, n % 256].map toString)

/-- The length of the run of zeros at the front. -/
def zeroRun (pieces : List Nat) : Nat := (pieces.takeWhile (· == 0)).length

/-- The index and length of the first of the longest runs of zeros, counted from index `i`. -/
def longestZeroRun (i : Nat) : List Nat → Nat × Nat
  | [] => (i, 0)
  | p :: r =>
    let here := zeroRun (p :: r)
    let later := longestZeroRun (i + 1) r
    if later.2 > here then later else (i, here)

/-- Pieces in hexadecimal with colons between them. -/
def piecesText (pieces : List Nat) : String :=
  ":".intercalate (pieces.map fun p => String.ofList (Text.hexDigits p))

/-- The pieces of an address, with the first of the longest runs of two or more zeros as a double colon. -/
def ipv6Text (pieces : List Nat) : String :=
  let (i, n) := longestZeroRun 0 pieces
  if n < 2 then piecesText pieces
  else piecesText (pieces.take i) ++ "::" ++ piecesText (pieces.drop (i + n))

/-- The text of a host. -/
def text : Host → String
  | .name s => s
  | .ipv4 n => ipv4Text n
  | .ipv6 ps => "[" ++ ipv6Text ps ++ "]"

end Host

/-- The text of a path. -/
def UrlPath.text : UrlPath → String
  | .opaqueText s => s
  | .segments l => String.join (l.map ("/" ++ ·))

namespace Url

/-- Name and password before a host. -/
def credentialsText (u : Url) : String :=
  if u.username.isEmpty ∧ u.password.isEmpty then ""
  else
    u.username ++ (if u.password.isEmpty then "" else ":" ++ u.password) ++ "@"

/-- The part between the scheme and the path. A path that begins with two slashes needs a dot before it
when there is no host, or it would read as one. -/
def authorityText (u : Url) : String :=
  match u.host with
  | some h =>
    "//" ++ u.credentialsText ++ h.text ++
      match u.port with
      | some p => ":" ++ toString p
      | none => ""
  | none =>
    match u.path with
    | .segments ("" :: _ :: _) => "/."
    | _ => ""

/-- The text of the URL. -/
def text (u : Url) : String :=
  u.scheme ++ ":" ++ u.authorityText ++ u.path.text ++
    (match u.query with
      | some q => "?" ++ q
      | none => "") ++
    match u.fragment with
    | some f => "#" ++ f
    | none => ""

/-- The text of the host, if there is one. -/
def hostText? (u : Url) : Option String :=
  match u.host with
  | some (.name "") => none
  | some h => some h.text
  | none => none

/-- The segments of the path; an opaque path and an empty one have none. -/
def pathSegments? (u : Url) : Option (List String) :=
  match u.path with
  | .segments (s :: r) => some (s :: r)
  | _ => none

end Url

end LinkEmbed
