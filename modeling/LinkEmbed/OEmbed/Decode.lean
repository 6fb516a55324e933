import LinkEmbed.OEmbed.Basic
import LinkEmbed.Json.Decode
import LinkEmbed.Text.Blank

/-!
# Reading oEmbed documents

Documents from JSON values and texts. Providers disagree on whether sizes are numbers or texts, so every
number may be given as either. Of several things wrong the first is reported: the fields of the kind as
they come, then those of them that are missing, then the common fields as they come.
-/

namespace LinkEmbed.OEmbed

open Json (Mismatch mismatch)

/-! ## Fields -/

/-- A field value, or the mismatch that makes the document unreadable. -/
abbrev Read (α : Type) := Except Mismatch α

/-- A text. -/
def readText : Json → Read String
  | .text s => .ok s
  | v => .error (mismatch v "a string")

/-- A number, or a text that spells one when white space around it is dropped. -/
def readNumber : Json → Read Binary64
  | .integer n => .ok (.ofInt n)
  | .float x => .ok x
  | .text s =>
    match Binary64.read? (Text.trim s) with
    | some x => .ok x
    | none => .error (.noNumber s)
  | _ => .error .neitherNumberNorText

/-- The largest size: 32 bits. -/
def maxDimension : Nat := 0xFFFFFFFF

/-- The largest age: 64 bits. -/
def maxAge : Nat := 0xFFFFFFFFFFFFFFFF

/-- A magnitude as a word of 64 bits: rounded to a natural number, a half up, and the largest word where that is
too large. -/
def toWord (m : Nat) (q : Int) : Nat := min (Binary64.roundHalfUp m q) maxAge

/-- The lower 32 bits of a word. -/
def lowerHalf (n : Nat) : Nat := n % 0x100000000

/-- A number from zero up to the floating point number nearest to `max`, as a word of 64 bits. -/
def unsigned (max : Nat) (x : Binary64) : Read Nat :=
  match x with
  | .finite s m q =>
    if x.lt (Binary64.zero false) || (Binary64.ofInt max).lt x then .error (.outOfRange (.finite s m q))
    else .ok (toWord m q)
  | x => .error (.outOfRange x)

/-- A size. -/
def readDimension (v : Json) : Read Nat := do
  return lowerHalf (← unsigned maxDimension (← readNumber v))

/-- An age in seconds. -/
def readAge (v : Json) : Read Nat := do
  unsigned maxAge (← readNumber v)

/-- A version: a text, or a number written out. -/
def readVersion : Json → Read String
  | .text s => .ok s
  | .integer n => .ok (Binary64.ofInt n).exactText
  | .float x => .ok x.exactText
  | _ => .error .neitherNumberNorText

/-- A field that `null` leaves out. -/
def optional {α : Type} (read : Json → Read α) : Json → Read (Option α)
  | .null => .ok none
  | v => (read v).map some

/-- Whether a value can be read. -/
def accepts {α : Type} (read : Json → Read α) (v : Json) : Read Unit := (read v).map fun _ => ()

/-- Go through fields in order and stop at the first that is repeated or cannot be read; `check` knows
which fields count. -/
def checkFields (check : String → Option (Json → Read Unit)) (seen : List String) :
    List (String × Json) → Read Unit
  | [] => .ok ()
  | (name, v) :: r =>
    match check name with
    | none => checkFields check seen r
    | some read =>
      if seen.contains name then .error (.duplicateField name)
      else do
        read v
        checkFields check (name :: seen) r

/-- A field that has to be there. -/
def required {α : Type} (name : String) (read : Json → Read α) (fields : List (String × Json)) : Read α :=
  match fields.lookup name with
  | none => .error (.missingField name)
  | some v => read v

/-- A field that may be left out. -/
def leftOut {α : Type} (name : String) (read : Json → Read α) (fields : List (String × Json)) :
    Read (Option α) :=
  match fields.lookup name with
  | none => .ok none
  | some v => optional read v

/-! ## Documents -/

/-- The common fields. -/
def checkCommon : String → Option (Json → Read Unit)
  | "version" => some (accepts (optional readVersion))
  | "title" => some (accepts (optional readText))
  | "author_name" => some (accepts (optional readText))
  | "author_url" => some (accepts (optional readText))
  | "provider_name" => some (accepts (optional readText))
  | "provider_url" => some (accepts (optional readText))
  | "cache_age" => some (accepts (optional readAge))
  | "thumbnail_url" => some (accepts (optional readText))
  | "thumbnail_width" => some (accepts (optional readDimension))
  | "thumbnail_height" => some (accepts (optional readDimension))
  | _ => none

/-- Read the common fields. -/
def readCommon (fields : List (String × Json)) : Read OEmbedCommon := do
  checkFields checkCommon [] fields
  let version ← leftOut "version" readVersion fields
  let title ← leftOut "title" readText fields
  let authorName ← leftOut "author_name" readText fields
  let authorUrl ← leftOut "author_url" readText fields
  let providerName ← leftOut "provider_name" readText fields
  let providerUrl ← leftOut "provider_url" readText fields
  let cacheAge ← leftOut "cache_age" readAge fields
  let thumbnailUrl ← leftOut "thumbnail_url" readText fields
  let thumbnailWidth ← leftOut "thumbnail_width" readDimension fields
  let thumbnailHeight ← leftOut "thumbnail_height" readDimension fields
  return { version, title, authorName, authorUrl, providerName, providerUrl, cacheAge, thumbnailUrl,
           thumbnailWidth, thumbnailHeight }

/-- The fields that a kind has of its own. -/
def checkOwn : OEmbedKind → String → Option (Json → Read Unit)
  | .photo, "url" => some (accepts readText)
  | .photo, "width" => some (accepts readDimension)
  | .photo, "height" => some (accepts readDimension)
  | .video, "html" => some (accepts readText)
  | .video, "width" => some (accepts readDimension)
  | .video, "height" => some (accepts readDimension)
  | .rich, "html" => some (accepts readText)
  | .rich, "width" => some (accepts (optional readDimension))
  | .rich, "height" => some (accepts (optional readDimension))
  | _, _ => none

/-- Read a document of a given kind from its other fields. -/
def ofFields (kind : OEmbedKind) (fields : List (String × Json)) : Read OEmbed := do
  -- Fields are checked in the order of the document, and missing ones are noticed afterwards.
  checkFields (checkOwn kind) [] fields
  match kind with
  | .photo =>
    let url ← required "url" readText fields
    let width ← required "width" readDimension fields
    let height ← required "height" readDimension fields
    return .photo { common := ← readCommon fields, url, width, height }
  | .video =>
    let html ← required "html" readText fields
    let width ← required "width" readDimension fields
    let height ← required "height" readDimension fields
    return .video { common := ← readCommon fields, html, width, height }
  | .link => return .link (← readCommon fields)
  | .rich =>
    let html ← required "html" readText fields
    let width ← leftOut "width" readDimension fields
    let height ← leftOut "height" readDimension fields
    return .rich { common := ← readCommon fields, html, width, height }

/-- The kind that the `type` of a document names. -/
def readKind : Json → Read OEmbedKind
  | .text s =>
    match OEmbedKind.ofName? s with
    | some k => .ok k
    | none => .error (.unknownVariant s (OEmbedKind.all.map OEmbedKind.name))
  | v => .error (mismatch v "variant identifier")

/-- What a kind of document is called in messages. -/
def structureName : OEmbedKind → String
  | .photo => "struct OEmbedPhoto"
  | .video => "struct OEmbedVideo"
  | .link => "struct OEmbedLink"
  | .rich => "struct OEmbedRich"

/-- What any document is called in messages. -/
def documentName : String := "internally tagged enum OEmbed"

/-- Read a document from a JSON value. A list is taken for a kind with fields that have no names, which no
kind has. -/
def ofJson : Json → Read OEmbed
  | .object fields => do
    let kind ← required "type" readKind fields
    ofFields kind (fields.filter fun f => f.1 != "type")
  | .array [] => .error (.missingField "type")
  | .array (v :: _) => do
    let kind ← readKind v
    .error (mismatch (.array []) (structureName kind))
  | v => .error (mismatch v documentName)

/-! ## Texts -/

/-- The kind named by a value in a text. -/
def sourceKind (s : Json.Source) : Except Json.Error OEmbedKind :=
  match s with
  | .text _ e v none => (readKind (.text v)).mapError fun m => .unfit m (some e)
  | s => .error (s.wrongKind "variant identifier")

/-- The kind and the other fields of a document in a text, in the order in which they stand there. -/
def sourceFields (kind : Option OEmbedKind) :
    List (Json.Name × Json.Source) → Except Json.Error (Option OEmbedKind × List (String × Json))
  | [] => .ok (kind, [])
  | (n, s) :: r => do
    Json.checkFault n.bad
    if n.value = "type" then
      if kind.isSome then throw (.unfit (.duplicateField "type") (some n.resume))
      let k ← sourceKind s
      sourceFields (some k) r
    else
      let v ← s.toJson (Json.depthLimit - 1)
      let (k, fields) ← sourceFields kind r
      .ok (k, (n.value, v) :: fields)

/-- Read a document from a value in a text. -/
def ofSource : Json.Source → Except Json.Error OEmbed
  | .map _ stop fields fault => do
    let (kind, fields) ← sourceFields none fields
    Json.checkFault fault
    match kind with
    | none => .error (.unfit (.missingField "type") (some stop))
    | some kind => (ofFields kind fields).mapError fun m => .unfit m none
  | .list _ stop [] fault => do
    Json.checkFault fault
    .error (.unfit (.missingField "type") (some stop))
  -- The first item of a list names the kind; no list holds a document.
  | .list _ _ (s :: r) fault => do
    let kind ← sourceKind s
    let _ ← Json.Source.toJsonItems (Json.depthLimit - 1) r
    Json.checkFault fault
    .error (.unfit (mismatch (.array []) (structureName kind)) none)
  | s => .error (s.wrongKind documentName)

/-- Read a document from a JSON text. -/
def ofText (text : String) : Except Json.Error OEmbed := do
  let t := Json.SourceText.read text
  let v ← ofSource t.value
  Json.checkFault t.trailing
  .ok v

end LinkEmbed.OEmbed
