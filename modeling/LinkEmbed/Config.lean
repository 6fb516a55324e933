import LinkEmbed.Embedder
import LinkEmbed.Toml.Document

/-!
# Settings

Which ways to embed links are tried and in what order, how cards look, and whether the status provider is
asked, as a TOML document says it. Whatever a document leaves out is as usual.
-/

namespace LinkEmbed

namespace Toml

/-- A field of a record: its name, and how its value gets into the record. -/
structure Setting (σ : Type) where
  name : String
  read : σ → Toml → Option σ

/-- The settings of a record by name; names that are not known are passed over. -/
def readNamed {σ : Type} (settings : List (Setting σ)) (record : σ) : List (String × Toml) → Option σ
  | [] => some record
  | (name, v) :: r =>
    match settings.find? (·.name == name) with
    | some s => (s.read record v).bind fun record => readNamed settings record r
    | none => readNamed settings record r

/-- The settings of a record in order; what is too many is passed over. -/
def readInOrder {σ : Type} (record : σ) : List (Setting σ) → List Toml → Option σ
  | s :: ss, v :: vs => (s.read record v).bind fun record => readInOrder record ss vs
  | _, _ => some record

/-- Read a record from a table or from a list of its values. A date has parts, but none that is known. -/
def readRecord {σ : Type} (settings : List (Setting σ)) (record : σ) : Toml → Option σ
  | .table _ _ entries => readNamed settings record entries
  | .inlineTable _ entries => readNamed settings record entries
  | .array items => readInOrder record settings items
  | .tables items => readInOrder record settings items
  | .date _ => some record
  | _ => none

/-- A text. -/
def getText : Toml → Option String
  | .text s => some s
  | _ => none

/-- A truth value. -/
def getBool : Toml → Option Bool
  | .bool b => some b
  | _ => none

/-- A list of texts. -/
def getTexts : Toml → Option (List String)
  | .array items => items.mapM getText
  | .tables items => items.mapM getText
  | _ => none

/-- Whether a value holds nothing. -/
def isEmpty : Toml → Bool
  | .table _ _ [] => true
  | .inlineTable _ [] => true
  | .array [] => true
  | .tables [] => true
  | _ => false

/-- One of a list of names, given as a text, or as a table whose one entry has that name and holds
nothing. -/
def getName {α : Type} (known : List (String × α)) : Toml → Option α
  | .text s => known.lookup s
  | .table _ _ [(name, v)] => if v.isEmpty then known.lookup name else none
  | .inlineTable _ [(name, v)] => if v.isEmpty then known.lookup name else none
  | _ => none

end Toml

/-- The settings of an embedder. -/
structure EmbedConfig where
  /-- The names of the strategies in the order in which they are tried. -/
  order : List String := [OEmbedDocuments.name, LinkCards.name]
  cardStyle : CardStyle := {}
  /-- Whether the status provider is asked about statuses. -/
  asksStatusProvider : Bool := false

instance : Inhabited EmbedConfig := ⟨{}⟩

namespace EmbedConfig

open Toml (Setting)

/-- How cards look. -/
def cardSettings : List (Setting CardStyle) :=
  [⟨"class_name_prefix", fun s v => v.getText.map fun t => { s with classPrefix := t }⟩,
    ⟨"open_in_new_tab", fun s v => v.getBool.map fun b => { s with openInNewTab := b }⟩,
    ⟨"image_loading", fun s v => (v.getName ImageLoading.all).map fun l => { s with imageLoading := l }⟩,
    ⟨"image_decoding", fun s v => (v.getName ImageDecoding.all).map fun d => { s with imageDecoding := d }⟩]

/-- Which providers are asked. -/
def providerSettings : List (Setting Bool) := [⟨"twitter", fun _ v => v.getBool⟩]

/-- All settings. -/
def settings : List (Setting EmbedConfig) :=
  [⟨"order", fun c v => v.getTexts.map fun l => { c with order := l }⟩,
    ⟨"link_card", fun c v => (Toml.readRecord cardSettings {} v).map fun s => { c with cardStyle := s }⟩,
    ⟨"oembed", fun c v => (Toml.readRecord providerSettings false v).map fun b =>
      { c with asksStatusProvider := b }⟩]

/-- Read settings. -/
def ofToml (text : String) : Except EmbedError EmbedConfig :=
  match Toml.parse? text with
  | none => .error (.config "the text is no TOML document")
  | some t =>
    match Toml.readRecord settings {} t with
    | none => .error (.config "a setting has a value of the wrong kind")
    | some c => .ok c

/-- How documents are shown, where `status` answers for statuses. -/
def preset (c : EmbedConfig) (status : Fetcher OEmbed) : OEmbedPreset :=
  let providers : List OEmbedProvider :=
    if c.asksStatusProvider then [⟨fun u => .value u.isTwitterStatus, status⟩] else []
  { OEmbedPreset.standard with providers }

/-- The strategy of a name. -/
def strategy (c : EmbedConfig) (fetcher : Fetcher Metadata) (status : Fetcher OEmbed) (name : String) :
    Except EmbedError Strategy :=
  if name = OEmbedDocuments.name then .ok (.documents { fetcher, preset := c.preset status })
  else if name = LinkCards.name then .ok (.cards { fetcher, preset := c.cardStyle.preset })
  else .error (.config ("unknown transformer `" ++ name ++ "`"))

/-- Build the embedder, where `fetcher` knows pages and `status` answers for statuses. -/
def build (c : EmbedConfig) (fetcher : Fetcher Metadata) (status : Fetcher OEmbed) :
    Except EmbedError Embedder := do
  let strategies ← c.order.mapM (c.strategy fetcher status)
  return { strategies }

end EmbedConfig

end LinkEmbed
