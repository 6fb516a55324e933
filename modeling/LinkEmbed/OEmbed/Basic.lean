/-!
# oEmbed documents

What a provider says about a page it offers to embed. The `type` of a document selects one of four kinds,
and some fields are common to all of them.
-/

namespace LinkEmbed

/-- The kinds of oEmbed documents. -/
inductive OEmbedKind where
  | photo
  | video
  | link
  | rich
deriving DecidableEq, Repr

/-- The name of a kind, as the `type` of a document gives it. -/
def OEmbedKind.name : OEmbedKind → String
  | .photo => "photo"
  | .video => "video"
  | .link => "link"
  | .rich => "rich"

/-- All kinds, in the order in which messages list them. -/
def OEmbedKind.all : List OEmbedKind := [.photo, .video, .link, .rich]

/-- The kind of a name. -/
def OEmbedKind.ofName? (s : String) : Option OEmbedKind := all.find? fun k => k.name == s

theorem OEmbedKind.ofName?_name (k : OEmbedKind) : ofName? k.name = some k := by
  cases k <;> decide

/-- The fields that every kind of document may have. The age is in seconds. -/
structure OEmbedCommon where
  version : Option String := none
  title : Option String := none
  authorName : Option String := none
  authorUrl : Option String := none
  providerName : Option String := none
  providerUrl : Option String := none
  cacheAge : Option Nat := none
  thumbnailUrl : Option String := none
  thumbnailWidth : Option Nat := none
  thumbnailHeight : Option Nat := none
deriving DecidableEq, Repr, Inhabited

/-- A photo: its address and its size. -/
structure OEmbedPhoto where
  common : OEmbedCommon
  url : String
  width : Nat
  height : Nat
deriving DecidableEq, Repr, Inhabited

/-- A video: the markup that plays it and its size. -/
structure OEmbedVideo where
  common : OEmbedCommon
  html : String
  width : Nat
  height : Nat
deriving DecidableEq, Repr, Inhabited

/-- Any other content: its markup and, if it is known, its size. -/
structure OEmbedRich where
  common : OEmbedCommon
  html : String
  width : Option Nat
  height : Option Nat
deriving DecidableEq, Repr, Inhabited

/-- An oEmbed document. A link has nothing but the common fields. -/
inductive OEmbed where
  | photo (photo : OEmbedPhoto)
  | video (video : OEmbedVideo)
  | link (common : OEmbedCommon)
  | rich (rich : OEmbedRich)
deriving DecidableEq, Repr, Inhabited

namespace OEmbed

/-- The kind of a document. -/
def kind : OEmbed → OEmbedKind
  | .photo _ => .photo
  | .video _ => .video
  | .link _ => .link
  | .rich _ => .rich

/-- The fields common to all kinds. -/
def common : OEmbed → OEmbedCommon
  | .photo p => p.common
  | .video v => v.common
  | .link c => c
  | .rich r => r.common

/-- The markup to embed, which only videos and rich content have. -/
def html? : OEmbed → Option String
  | .video v => some v.html
  | .rich r => some r.html
  | _ => none

end OEmbed

end LinkEmbed
