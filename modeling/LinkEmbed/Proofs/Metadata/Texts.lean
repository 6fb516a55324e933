import LinkEmbed.Preview
import LinkEmbed.Proofs.Metadata.Images
import LinkEmbed.Proofs.Text.Trimmed
import Mathlib.Data.List.ReduceOption

/-!
# Texts of pages

What is known of a page is what its tags say, without blank texts and white space, and with its addresses resolved.

* `Html.metaContent?_eq`, `title?_eq` — a text is the first of a list that is not blank.
* `isProper_of_mem_texts` — no text in what is known of a page is blank or has white space around it.
* `isResolved_of_mem_urls` — every address in it has been resolved.
* `title_ofMetadata_ofHtml`, `description_ofMetadata_ofHtml` — Open Graph tags, the page itself and Twitter Card
  tags can be asked one after another, because none of them ever answers with a blank text.
* `ofHtml_preview` — the title and the description of the preview of a page.
-/

namespace LinkEmbed

/-! ## What a page says -/

namespace Html

/-- What the tags of a name say, in the order of the page. -/
def contents (elements : List Found) (key name : String) : List String :=
  (elements.filter (Found.isMeta key name)).filterMap fun e => e.value? "content"

/-- The text of the first title, if a page has one. -/
def Tree.titleText? (t : Tree) : Option String :=
  (t.elements.find? fun e => e.name.name == "title").map fun e => t.textOf t.size e.node

/-- All titles of a page: for Open Graph readers, its own, for Twitter Card readers. -/
def Tree.titles (t : Tree) : List String :=
  contents t.elements "property" "og:title" ++ t.titleText?.toList ++ contents t.elements "name" "twitter:title"

/-- All descriptions of a page: for Open Graph readers, its own, for Twitter Card readers. -/
def Tree.descriptions (t : Tree) : List String :=
  contents t.elements "property" "og:description" ++ contents t.elements "name" "description" ++
    contents t.elements "name" "twitter:description"

/-- The first value that is not blank is found among all values. -/
theorem firstValue?_eq (elements : List Found) (p : Found → Bool) (key : String) :
    firstValue? elements p key = ((elements.filter p).filterMap fun e => e.value? key).findSome? Text.nonBlank := by
  unfold firstValue?
  induction elements.filter p with
  | nil => rfl
  | cons e r ih =>
    rw [List.findSome?_cons, Found.nonBlank?, ih]
    cases hvalue : e.value? key with
    | none => rw [Option.bind_none, List.filterMap_cons, hvalue]
    | some s => rw [Option.bind_some, List.filterMap_cons, hvalue, List.findSome?_cons]

/-- What tags say under a name is the first text of theirs that is not blank. -/
theorem metaContent?_eq (elements : List Found) (key name : String) :
    metaContent? elements key name = (contents elements key name).findSome? Text.nonBlank :=
  firstValue?_eq elements (Found.isMeta key name) "content"

theorem exists_of_firstValue? {elements : List Found} {p : Found → Bool} {key t : String}
    (h : firstValue? elements p key = some t) : ∃ e ∈ elements, e.nonBlank? key = some t := by
  obtain ⟨e, he, ht⟩ := List.exists_of_findSome?_eq_some h
  exact ⟨e, List.mem_of_mem_filter he, ht⟩

end Html

/-! ## What is known of a page -/

namespace Metadata

/-- All images of a page. -/
def images (m : Metadata) : List MetaImage := m.openGraph.images ++ m.twitterCard.images

/-- All titles, descriptions and texts that stand for images. -/
def texts (m : Metadata) : List String :=
  [m.title, m.description, m.openGraph.title, m.openGraph.description, m.twitterCard.title,
    m.twitterCard.description].reduceOption ++ m.images.filterMap (·.alt)

/-- All addresses. -/
def urls (m : Metadata) : List String := [m.favicon, m.openGraph.url].reduceOption ++ m.images.map (·.url)

end Metadata

namespace ExtractedPage

open Html (Found)

/-- A text is the address that an attribute of some element gives, resolved against that of the page. -/
def IsResolved (page : Url) (elements : List Found) (s : String) : Prop :=
  ∃ e ∈ elements, ∃ key reference u, e.nonBlank? key = some reference ∧ page.join reference = .ok u ∧ u.text = s

section

variable {page : Url} {elements : List Found} {key family s : String}

theorem resolve?_eq_some_iff {reference : String} :
    resolve? page reference = some s ↔ ∃ u, page.join reference = .ok u ∧ u.text = s := by
  unfold resolve?
  cases page.join reference <;> simp

/-- The value of an attribute, resolved, is an address of the page. -/
theorem isResolved_of_resolve? {e : Found} {reference : String} (he : e ∈ elements)
    (hvalue : e.nonBlank? key = some reference) (h : resolve? page reference = some s) :
    IsResolved page elements s := by
  obtain ⟨u, hu, htext⟩ := resolve?_eq_some_iff.mp h
  exact ⟨e, he, key, reference, u, hvalue, hu, htext⟩

/-- The address of an icon, or of the page itself. -/
theorem isResolved_of_bind {p : Found → Bool}
    (h : (Html.firstValue? elements p key).bind (resolve? page) = some s) : IsResolved page elements s := by
  obtain ⟨reference, hreference, hs⟩ := Option.bind_eq_some_iff.mp h
  obtain ⟨e, he, hvalue⟩ := Html.exists_of_firstValue? hreference
  exact isResolved_of_resolve? he hvalue hs

/-- The address of an image. -/
theorem isResolved_of_imageUrl? {e : Found} (he : e ∈ elements) (h : e.imageUrl? page key family = some s) :
    IsResolved page elements s := by
  unfold Found.imageUrl? at h
  split at h
  · obtain ⟨reference, hvalue, hs⟩ := Option.bind_eq_some_iff.mp h
    exact isResolved_of_resolve? he hvalue hs
  · cases h

/-- A description of an image. -/
theorem isProper_of_lastAlt? {tags : List Found} (h : lastAlt? key family tags = some s) : Text.IsProper s := by
  obtain ⟨e, -, halt⟩ := List.exists_of_findSome?_eq_some h
  unfold Found.altText? at halt
  split at halt
  · obtain ⟨raw, -, hraw⟩ := Option.bind_eq_some_iff.mp halt
    exact Text.isProper_of_nonBlank hraw
  · cases halt

/-- Every image of a page has an address that was resolved, and a description that says something, if any. -/
theorem isResolved_of_mem_images {i : MetaImage} (hi : i ∈ images page elements key family) :
    IsResolved page elements i.url ∧ ∀ alt, i.alt = some alt → Text.IsProper alt := by
  have hgiven := areGiven_images page key family elements
  constructor
  · have hurl : i.url ∈ elements.filterMap (Found.imageUrl? page key family) :=
      hgiven.urls ▸ List.mem_map_of_mem hi
    obtain ⟨e, he, hurl⟩ := List.mem_filterMap.mp hurl
    exact isResolved_of_imageUrl? he hurl
  · intro alt halt
    rw [hgiven.alts] at hi
    -- An image is described by what `lastAlt?` finds behind its tag.
    obtain ⟨tail, -, htail⟩ := List.mem_filterMap.mp hi
    cases tail with
    | nil => cases htail
    | cons e behind =>
      obtain ⟨url, -, rfl⟩ := Option.map_eq_some_iff.mp htail
      exact isProper_of_lastAlt? halt

end

/-- A page has a title of its own if its first title is not blank. -/
theorem title?_eq (t : Html.Tree) : title? t t.elements = t.titleText?.toList.findSome? Text.nonBlank := by
  unfold title? Html.Tree.titleText?
  cases t.elements.find? fun e => e.name.name == "title" <;> simp

section

variable {html : String} {page : Url} {s : String}

/-- So for the images of both families. -/
theorem isResolved_of_mem_metadata_images {i : MetaImage} (hi : i ∈ (ofHtml html page).metadata.images) :
    IsResolved page (Html.readPage html).elements i.url ∧ ∀ alt, i.alt = some alt → Text.IsProper alt := by
  rcases List.mem_append.mp hi with hi | hi
  · exact isResolved_of_mem_images hi
  · exact isResolved_of_mem_images hi

/-- No text in what is known of a page is blank or has white space around it. -/
theorem isProper_of_mem_texts (h : s ∈ (ofHtml html page).metadata.texts) : Text.IsProper s := by
  let t := Html.readPage html
  let m := (ofHtml html page).metadata
  -- Each title and description is the first text of a list that is not blank.
  have hfields : [m.title, m.description, m.openGraph.title, m.openGraph.description, m.twitterCard.title,
      m.twitterCard.description] =
        [t.titleText?.toList, Html.contents t.elements "name" "description",
          Html.contents t.elements "property" "og:title", Html.contents t.elements "property" "og:description",
          Html.contents t.elements "name" "twitter:title",
          Html.contents t.elements "name" "twitter:description"].map (·.findSome? Text.nonBlank) := by
    simp only [List.map_cons, List.map_nil, ← Html.metaContent?_eq, ← title?_eq]
    rfl
  rcases List.mem_append.mp h with hfield | halt
  · rw [List.reduceOption_mem_iff, hfields] at hfield
    obtain ⟨texts, -, hs⟩ := List.mem_map.mp hfield
    obtain ⟨raw, -, hraw⟩ := List.exists_of_findSome?_eq_some hs
    exact Text.isProper_of_nonBlank hraw
  · obtain ⟨i, hi, halt⟩ := List.mem_filterMap.mp halt
    exact (isResolved_of_mem_metadata_images hi).2 s halt

/-- Every address in what is known of a page has been resolved. -/
theorem isResolved_of_mem_urls (h : s ∈ (ofHtml html page).metadata.urls) :
    IsResolved page (Html.readPage html).elements s := by
  rcases List.mem_append.mp h with hfield | hurl
  · rw [List.reduceOption_mem_iff, List.mem_pair] at hfield
    rcases hfield with hicon | hurl
    · exact isResolved_of_bind hicon.symm
    · exact isResolved_of_bind hurl.symm
  · obtain ⟨i, hi, rfl⟩ := List.mem_map.mp hurl
    exact (isResolved_of_mem_metadata_images hi).1

/-- The title of a preview is the first that is not blank, of all the page gives. -/
theorem title_ofMetadata_ofHtml (html : String) (page : Url) :
    (Preview.ofMetadata page (ofHtml html page).metadata).title =
      (Html.readPage html).titles.findSome? Text.nonBlank := by
  rw [Html.Tree.titles, List.findSome?_append, List.findSome?_append, ← title?_eq, ← Html.metaContent?_eq,
    ← Html.metaContent?_eq]
  rfl

/-- So is its description. -/
theorem description_ofMetadata_ofHtml (html : String) (page : Url) :
    (Preview.ofMetadata page (ofHtml html page).metadata).description =
      (Html.readPage html).descriptions.findSome? Text.nonBlank := by
  rw [Html.Tree.descriptions, List.findSome?_append, List.findSome?_append, ← Html.metaContent?_eq,
    ← Html.metaContent?_eq, ← Html.metaContent?_eq]
  rfl

end

/-- **Titles and descriptions of a page.** The preview of a page has the first title and the first description that
are not blank, and none exactly if all are blank: first among what Open Graph tags say, in the order of the page,
then of what the page says itself, then of what Twitter Card tags say. What is known of a page has no text that is
blank or has white space around it, and no address that was not resolved against that of the page; an oEmbed
document is not known from the page alone. -/
theorem ofHtml_preview (html : String) (page : Url) :
    let t := Html.readPage html
    let m := (ofHtml html page).metadata
    let preview := Preview.ofMetadata page m
    (∀ title, preview.title = some title ↔ Text.IsFirst t.titles title) ∧
      (preview.title = none ↔ ∀ s ∈ t.titles, Text.isBlank s = true) ∧
      (∀ description, preview.description = some description ↔ Text.IsFirst t.descriptions description) ∧
      (preview.description = none ↔ ∀ s ∈ t.descriptions, Text.isBlank s = true) ∧
      (∀ s ∈ m.texts, Text.IsProper s) ∧
      (∀ s ∈ m.urls, IsResolved page t.elements s) ∧
      m.oembed = none := by
  intro t m preview
  have htitle : preview.title = t.titles.findSome? Text.nonBlank := title_ofMetadata_ofHtml html page
  have hdescription : preview.description = t.descriptions.findSome? Text.nonBlank :=
    description_ofMetadata_ofHtml html page
  rw [htitle, hdescription]
  refine ⟨fun title => Text.findSome?_nonBlank_eq_some_iff, Text.findSome?_nonBlank_eq_none_iff,
    fun description => Text.findSome?_nonBlank_eq_some_iff, Text.findSome?_nonBlank_eq_none_iff, ?_, ?_, rfl⟩
  · intro s hs
    exact isProper_of_mem_texts hs
  · intro s hs
    exact isResolved_of_mem_urls hs

/-- A blank Open Graph title counts as none. -/
example : (Preview.ofMetadata { scheme := "https", host := some (.name "a.b") }
    (ofHtml "<meta property=og:title content=' '><title> A page </title>"
      { scheme := "https", host := some (.name "a.b") }).metadata).title = some "A page" := by
  decide +kernel

end ExtractedPage

end LinkEmbed
