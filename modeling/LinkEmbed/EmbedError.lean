import LinkEmbed.Json.Error
import LinkEmbed.Json.Writer
import LinkEmbed.Url.Host

/-!
# What can go wrong with an embed

The causes for which a page has no embed, with their wording. None of them stops a document: they are
reported one by one.
-/

namespace LinkEmbed

/-- A cause for which a request over the network fails before an answer is there. -/
inductive NetworkFault where
  /-- The client itself cannot be set up. -/
  | badClient
  /-- No request can be made for the URL. -/
  | badRequest (url : Url)
  /-- The request was not answered. -/
  | unreachable (url : Url)
  /-- The answers lead on and on. -/
  | tooManyRedirects (url : Url)
deriving DecidableEq, Repr

/-- The wording of a failed request. -/
def NetworkFault.message : NetworkFault → String
  | .badClient => "builder error"
  | .badRequest u => "builder error for url (" ++ u.text ++ ")"
  | .unreachable u => "error sending request for url (" ++ u.text ++ ")"
  | .tooManyRedirects u => "error following redirect for url (" ++ u.text ++ ")"

/-- A cause for which something cannot be embedded. -/
inductive EmbedError where
  | invalidUrl (text : String) (cause : UrlError)
  /-- A page could not be fetched. -/
  | fetch (url message : String)
  | network (cause : NetworkFault)
  /-- A page answered, but not with success. -/
  | status (url : String) (code : Nat)
  /-- What is known of a page does not have the form it should have. -/
  | malformed (url message : String)
  | json (cause : Json.Error)
  /-- Nothing is known of the page any more when it is to be rendered. -/
  | missingMetadata (url : String)
  | markdown (message : String)
  /-- A transformer broke off. -/
  | panicked (message : String)
  | config (message : String)
  | custom (message : String)
deriving DecidableEq, Repr

namespace EmbedError

/-- The name of the kind of error. -/
def kind : EmbedError → String
  | .invalidUrl .. => "invalid-url"
  | .fetch .. => "fetch"
  | .network .. => "http"
  | .status .. => "status"
  | .malformed .. => "malformed"
  | .json .. => "json"
  | .missingMetadata .. => "missing-metadata"
  | .markdown .. => "markdown"
  | .panicked .. => "panicked"
  | .config .. => "config"
  | .custom .. => "custom"

/-- The wording of an error. -/
def message : EmbedError → String
  | .invalidUrl text cause => "invalid url `" ++ text ++ "`: " ++ cause.message
  | .fetch url message => "failed to fetch " ++ url ++ ": " ++ message
  | .network cause => "http error: " ++ cause.message
  | .status url code => url ++ " answered with status " ++ toString code
  | .malformed url message => "malformed metadata for " ++ url ++ ": " ++ message
  | .json cause => "json error: " ++ cause.message
  | .missingMetadata url => "no metadata found for " ++ url
  | .markdown message => "markdown error: " ++ message
  | .panicked message => "transformer panicked: " ++ message
  | .config message => "config error: " ++ message
  | .custom message => message

/-- The wording of the error underneath, if there is one. -/
def cause? : EmbedError → Option String
  | .invalidUrl _ cause => some cause.message
  | .network cause => some cause.message
  | .json cause => some cause.message
  | _ => none

/-- The error as a JSON text. -/
def report (e : EmbedError) : String :=
  (Json.ofFields [("kind", .text e.kind), ("message", .text e.message)]).write

/-- No name of a kind has a character that JSON escapes. -/
theorem quote_kind (e : EmbedError) : Json.quote e.kind = '"' :: e.kind.toList ++ ['"'] := by
  cases e <;> simp [kind, Json.quote, Json.escapeChar]

/-- The JSON text is an object with the name of the kind and the wording, in this order. -/
theorem report_eq (e : EmbedError) :
    e.report = "\x7b\"kind\":\"" ++ e.kind ++ "\",\"message\":" ++ String.ofList (Json.quote e.message) ++
      "\x7d" := by
  have fields : Json.ofFields [("kind", .text e.kind), ("message", .text e.message)] =
      .object [("kind", .text e.kind), ("message", .text e.message)] := by
    simp only [Json.ofFields, List.foldl_cons, List.foldl_nil, Json.insertField]
    rw [if_neg (by decide), if_neg (by decide)]
  have hkind : Json.quote "kind" = ['"', 'k', 'i', 'n', 'd', '"'] := by simp [Json.quote, Json.escapeChar]
  have hmessage : Json.quote "message" = ['"', 'm', 'e', 's', 's', 'a', 'g', 'e', '"'] := by
    simp [Json.quote, Json.escapeChar]
  apply String.ext
  simp [report, fields, Json.write, Json.chars, Json.fieldChars, quote_kind, hkind, hmessage]

end EmbedError

/-- The answer of something that may fail, or may break off without an answer. -/
inductive Outcome (α : Type) where
  | value (a : α)
  | failed (error : EmbedError)
  /-- Broken off, perhaps with a message. -/
  | panicked (message : Option String)

namespace Outcome

variable {α β : Type}

/-- Go on with the answer, if there is one. -/
def bind (x : Outcome α) (f : α → Outcome β) : Outcome β :=
  match x with
  | .value a => f a
  | .failed e => .failed e
  | .panicked m => .panicked m

/-- Change the answer, if there is one. -/
def map (f : α → β) (x : Outcome α) : Outcome β := x.bind fun a => .value (f a)

/-- An answer or an error. -/
def ofExcept : Except EmbedError α → Outcome α
  | .ok a => .value a
  | .error e => .failed e

/-- The answer, where breaking off is an error like any other. -/
def guarded : Outcome α → Except EmbedError α
  | .value a => .ok a
  | .failed e => .error e
  | .panicked m => .error (.panicked (m.getD "unknown panic"))

end Outcome

/-- The answer of something that cannot fail, but may break off without an answer, perhaps with a
message. -/
inductive Attempt (α : Type) where
  | value (a : α)
  | panicked (message : Option String)

namespace Attempt

variable {α β : Type}

/-- Go on with the answer, if there is one. -/
def bind (x : Attempt α) (f : α → Attempt β) : Attempt β :=
  match x with
  | .value a => f a
  | .panicked m => .panicked m

/-- Change the answer, if there is one. -/
def map (f : α → β) (x : Attempt α) : Attempt β := x.bind fun a => .value (f a)

/-- An answer that never is an error. -/
def toOutcome : Attempt α → Outcome α
  | .value a => .value a
  | .panicked m => .panicked m

end Attempt

end LinkEmbed
