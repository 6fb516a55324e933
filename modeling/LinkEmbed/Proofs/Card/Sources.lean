import LinkEmbed.Proofs.Card.Content
import LinkEmbed.Proofs.Metadata.Texts

/-!
# Where cards have their texts from

A card takes its description and its image from the first source that has one: Open Graph, the page itself, the
Twitter Card. A source has a text even if the text is empty, and then the card shows none at all.

* `present_head?_eq_iff` — the first text that is given is the first that is not empty exactly if it hides nothing.
* `Preview.image_ofMetadata` — the address of an image and the text that stands for it are looked for separately, so
  they belong to one image exactly if the first Twitter Card image lends no text to an Open Graph image.
* `CardStyle.card_shows_first_given` — what a card shows, and when that is the first text that is not empty.
* `ExtractedPage.hidesNothing_descriptions`, `ExtractedPage.hidesNothing_imageUrls` — in what is read from a page no
  text is empty, so there none hides another.
-/

namespace LinkEmbed

/-! ## The first text that is given and the first that is not empty -/

/-- The first text that is not empty. -/
def firstPresent? (texts : List String) : Option String := texts.find? fun t => !t.isEmpty

/-- If the first text is empty, all are. -/
def HidesNothing (texts : List String) : Prop := texts.head? = some "" → ∀ t ∈ texts, t = ""

theorem firstPresent?_eq_none_iff {texts : List String} : firstPresent? texts = none ↔ ∀ t ∈ texts, t = "" := by
  simp [firstPresent?]

/-- The first text that is given, unless it is empty, is the first that is not empty exactly if it hides nothing. -/
theorem present_head?_eq_iff {texts : List String} :
    CardStyle.present texts.head? = firstPresent? texts ↔ HidesNothing texts := by
  cases texts with
  | nil => exact iff_of_true rfl nofun
  | cons t r =>
    by_cases ht : t = ""
    · subst ht
      -- An empty text is given first, so nothing is shown, which is right only if all others are empty too.
      have hgiven : CardStyle.present ("" :: r).head? = none := rfl
      rw [hgiven, eq_comm, firstPresent?_eq_none_iff]
      exact ⟨fun h _ => h, fun h => h rfl⟩
    · have hgiven : CardStyle.present (t :: r).head? = some t := Option.filter_some_pos (by simpa using ht)
      have hpresent : firstPresent? (t :: r) = some t := List.find?_cons_of_pos (by simpa using ht)
      refine iff_of_true (hgiven.trans hpresent.symm) fun hhead => absurd (Option.some.inj hhead) ht

/-- Where no text is empty, none is hidden. -/
theorem hidesNothing_of_ne {texts : List String} (h : ∀ t ∈ texts, t ≠ "") : HidesNothing texts := by
  intro hhead
  exact absurd rfl (h "" (List.mem_of_mem_head? hhead))

/-! ## Sources -/

theorem head?_reduceOption_cons {α : Type} (o : Option α) (l : List (Option α)) :
    (o :: l).reduceOption.head? = o.or l.reduceOption.head? := by
  cases o <;> rfl

namespace Metadata

/-- The descriptions of a page, in the order of their sources. -/
def descriptions (m : Metadata) : List String :=
  [m.openGraph.description, m.description, m.twitterCard.description].reduceOption

/-- The first images of a page, in the order of their sources. -/
def firstImages (m : Metadata) : List MetaImage :=
  [m.openGraph.images.head?, m.twitterCard.images.head?].reduceOption

/-- Their addresses. -/
def imageUrls (m : Metadata) : List String := m.firstImages.map (·.url)

/-- The first Open Graph image has no text that stands for it, and the first Twitter Card image has one. -/
structure LendsAlt (m : Metadata) (i j : MetaImage) : Prop where
  first : m.openGraph.images.head? = some i
  bare : i.alt = none
  second : m.twitterCard.images.head? = some j
  described : j.alt ≠ none

end Metadata

/-- An image as a preview shows it. -/
def PreviewImage.ofImage (i : MetaImage) : PreviewImage := { src := some i.url, alt := i.alt }

namespace Preview

variable {url : Url} {m : Metadata}

/-- A preview has the first description that is given. -/
theorem description_ofMetadata : (ofMetadata url m).description = m.descriptions.head? := by
  simp only [ofMetadata, Metadata.descriptions, head?_reduceOption_cons, List.reduceOption_nil, List.head?_nil,
    Option.or_none, Option.or_assoc]

theorem head?_firstImages : m.firstImages.head? = m.openGraph.images.head?.or m.twitterCard.images.head? := by
  simp only [Metadata.firstImages, head?_reduceOption_cons, List.reduceOption_nil, List.head?_nil, Option.or_none]

/-- Each part of the image has a chain of its own. -/
theorem image_eq : (ofMetadata url m).image =
    { src := (m.openGraph.images.head?.map (·.url)).or (m.twitterCard.images.head?.map (·.url))
      alt := (m.openGraph.images.head?.bind (·.alt)).or (m.twitterCard.images.head?.bind (·.alt)) } := rfl

/-- The address is that of the first image that is given. -/
theorem src_ofMetadata : (ofMetadata url m).image.src = m.imageUrls.head? := by
  rw [image_eq, Metadata.imageUrls, List.head?_map, head?_firstImages, Option.map_or]

/-- A borrowed text stands with an address that it does not belong to. -/
theorem image_of_lendsAlt {i j : MetaImage} (h : m.LendsAlt i j) :
    (ofMetadata url m).image = { src := some i.url, alt := j.alt } := by
  rw [image_eq, h.first, h.second, Option.bind_some, h.bare]
  rfl

/-- With nothing to borrow, the preview has the first image as it is. -/
theorem image_of_not_lendsAlt (h : ∀ i j, ¬ m.LendsAlt i j) :
    (ofMetadata url m).image = (m.firstImages.head?.map .ofImage).getD {} := by
  rw [image_eq, head?_firstImages]
  cases hfirst : m.openGraph.images.head? with
  | none => cases m.twitterCard.images.head? <;> rfl
  | some i =>
    -- Only where the image has no text of its own does another one count.
    have halt : i.alt.or (m.twitterCard.images.head?.bind (·.alt)) = i.alt := by
      cases hbare : i.alt with
      | some alt => rfl
      | none =>
        by_contra hlent
        obtain ⟨alt, hsecond⟩ := Option.ne_none_iff_exists'.mp hlent
        obtain ⟨j, hj, halt⟩ := Option.bind_eq_some_iff.mp hsecond
        exact h i j ⟨hfirst, hbare, hj, by rw [halt]; nofun⟩
    rw [Option.bind_some, halt]
    rfl

/-- A card shows an image unless its address is empty. -/
theorem shownImage?_ofMetadata (s : CardStyle) (icon : String) :
    s.shownImage? (s.card (ofMetadata url m) icon) =
      (m.firstImages.head?.filter fun i => !i.url.isEmpty).map fun i =>
        { src := some i.url, alt := (ofMetadata url m).image.alt } := by
  rw [s.shownImage?_card, src_ofMetadata, Metadata.imageUrls, List.head?_map, CardStyle.present, Option.filter_map,
    Option.map_map]
  rfl

/-- The image in a card has the text of another one if the latter lends it one and the former is shown at all. -/
theorem shownImage?_eq_iff (s : CardStyle) (icon : String) :
    s.shownImage? (s.card (ofMetadata url m) icon) =
        (m.firstImages.head?.filter fun i => !i.url.isEmpty).map .ofImage ↔
      ∀ i j, m.LendsAlt i j → i.url = "" := by
  rw [shownImage?_ofMetadata]
  constructor
  · intro hshown i j hlends
    -- The address is shown, so the borrowed text is seen beside it.
    by_contra hurl
    have hkept : (m.firstImages.head?.filter fun i => !i.url.isEmpty) = some i := by
      rw [head?_firstImages, hlends.first]
      exact Option.filter_some_pos (by simpa using hurl)
    rw [hkept, image_of_lendsAlt hlends, Option.map_some, Option.map_some, Option.some.injEq] at hshown
    exact hlends.described ((congrArg PreviewImage.alt hshown).trans hlends.bare)
  · intro hempty
    -- An image that is shown has an address, so by the assumption it borrows nothing.
    refine Option.map_congr fun i hi => ?_
    obtain ⟨hfirst, hurl⟩ := Option.filter_eq_some_iff.mp hi
    have halt : ∀ i j, ¬ m.LendsAlt i j := by
      intro k j hlends
      rw [head?_firstImages, hlends.first] at hfirst
      obtain rfl := Option.some.inj hfirst
      simp [hempty k j hlends] at hurl
    rw [image_of_not_lendsAlt halt, hfirst]
    rfl

/-- **One image.** The preview of a page has the address of the first Open Graph image, or else of the first Twitter
Card image, with the text that stands for the same image exactly if no other image lends it one: where the Open
Graph image has no text and the Twitter Card image has one, the text of the latter is put to the address of the
former. The same is true of the image in a card, where none is shown if the address is empty. -/
theorem image_ofMetadata (url : Url) (m : Metadata) :
    let preview := ofMetadata url m
    let image? := m.openGraph.images.head?.or m.twitterCard.images.head?
    (preview.image = (image?.map PreviewImage.ofImage).getD {} ↔ ∀ i j, ¬ m.LendsAlt i j) ∧
      (∀ i j, m.LendsAlt i j → preview.image = { src := some i.url, alt := j.alt }) ∧
      ∀ (s : CardStyle) (icon : String),
        s.shownImage? (s.card preview icon) =
            (image?.filter fun i => !i.url.isEmpty).map PreviewImage.ofImage ↔
          ∀ i j, m.LendsAlt i j → i.url = "" := by
  intro preview image?
  have hfirst : m.firstImages.head? = image? := head?_firstImages
  refine ⟨⟨fun hone i j hlends => ?_, fun halone => ?_⟩, fun i j => image_of_lendsAlt, fun s icon => ?_⟩
  · have hlent : preview.image = { src := some i.url, alt := j.alt } := image_of_lendsAlt hlends
    have himage : image? = some i := by
      rw [← hfirst, head?_firstImages, hlends.first]
      rfl
    rw [hone, himage] at hlent
    exact hlends.described ((congrArg PreviewImage.alt hlent).symm.trans hlends.bare)
  · rw [← hfirst]
    exact image_of_not_lendsAlt halone
  · rw [← hfirst]
    exact shownImage?_eq_iff s icon

/-- The text that stands for the Twitter Card image is put to the address of the Open Graph image. -/
theorem image_ofMetadata_borrowed :
    (ofMetadata { scheme := "https", host := some (.name "a.b") }
      { openGraph := { images := [{ url := "https://a.b/o.png" }] }
        twitterCard := { images := [{ url := "https://a.b/t.png", alt := some "T" }] } }).image =
          { src := some "https://a.b/o.png", alt := some "T" } ∧
      PreviewImage.ofImage { url := "https://a.b/o.png" } ≠ { src := some "https://a.b/o.png", alt := some "T" } := by
  decide

end Preview

/-! ## What hides a text -/

/-- A URL has a colon at least. -/
theorem Url.text_ne_empty (u : Url) : u.text ≠ "" := by
  intro h
  have hlength := congrArg String.length h
  have hcolon : ":".length = 1 := by decide
  simp only [text, String.length_append, String.length_empty] at hlength
  omega

namespace ExtractedPage

variable (html : String) (page : Url)

/-- No text in what is read from a page hides another one. -/
theorem hidesNothing_descriptions : HidesNothing (ofHtml html page).metadata.descriptions := by
  refine hidesNothing_of_ne fun t ht => ?_
  have hmem : t ∈ (ofHtml html page).metadata.texts := by
    simp only [Metadata.descriptions, Metadata.texts, List.mem_append, List.reduceOption_mem_iff, List.mem_cons,
      List.not_mem_nil, or_false] at ht ⊢
    rcases ht with ht | ht | ht <;> simp [ht]
  exact (isProper_of_mem_texts hmem).1

/-- Every address on a page is that of a URL, which is never empty. -/
theorem hidesNothing_imageUrls : HidesNothing (ofHtml html page).metadata.imageUrls := by
  refine hidesNothing_of_ne fun t ht => ?_
  have hmem : t ∈ (ofHtml html page).metadata.urls := by
    obtain ⟨i, hi, rfl⟩ := List.mem_map.mp ht
    rw [Metadata.firstImages, List.reduceOption_mem_iff, List.mem_pair] at hi
    refine List.mem_append_right _ (List.mem_map_of_mem (List.mem_append.mpr ?_))
    exact hi.imp (fun h => List.mem_of_mem_head? h.symm) fun h => List.mem_of_mem_head? h.symm
  obtain ⟨-, -, -, -, u, -, -, rfl⟩ := isResolved_of_mem_urls hmem
  exact u.text_ne_empty

end ExtractedPage

namespace CardStyle

/-- **What cards show.** A card of a page has a block for the description exactly if the first description that is
given is not empty, with its text, and one for the image exactly if the address of the first image that is given is
not empty, with an image of that address. It shows the first description and the first image that are not empty
exactly if no empty one hides them, and in what is read from a page none does. -/
theorem card_shows_first_given (s : CardStyle) (url : Url) (m : Metadata) :
    let preview := Preview.ofMetadata url m
    s.element preview = (s.faviconAlt preview).map (s.card preview) ∧
      (∀ icon,
        let card := s.card preview icon
        s.shownDescription? card = present m.descriptions.head? ∧
          (s.shownImage? card).map (·.src) = (present m.imageUrls.head?).map some ∧
          (s.shownDescription? card = firstPresent? m.descriptions ↔ HidesNothing m.descriptions) ∧
          ((s.shownImage? card).map (·.src) = (firstPresent? m.imageUrls).map some ↔ HidesNothing m.imageUrls)) ∧
      ∀ html, HidesNothing (ExtractedPage.ofHtml html url).metadata.descriptions ∧
        HidesNothing (ExtractedPage.ofHtml html url).metadata.imageUrls := by
  intro preview
  refine ⟨s.element_eq preview, fun icon => ?_, fun html =>
    ⟨ExtractedPage.hidesNothing_descriptions html url, ExtractedPage.hidesNothing_imageUrls html url⟩⟩
  intro card
  have hdescription : s.shownDescription? card = present m.descriptions.head? := by
    rw [s.shownDescription?_card, Preview.description_ofMetadata]
  have himage : (s.shownImage? card).map (·.src) = (present m.imageUrls.head?).map some := by
    rw [s.shownImage?_card, Preview.src_ofMetadata, Option.map_map]
    rfl
  refine ⟨hdescription, himage, ?_, ?_⟩
  · rw [hdescription, present_head?_eq_iff]
  · rw [himage, Option.map_inj_right fun _ _ => Option.some.inj, present_head?_eq_iff]

/-- An empty Open Graph description hides that of the page, and an Open Graph image without an address hides the
image of the Twitter Card. -/
theorem card_shows_nothing_given :
    ({} : CardStyle).shownDescription? (({} : CardStyle).card (.ofMetadata { scheme := "https", host := some (.name "a.b") }
        { description := some "A page", openGraph := { description := some "" } }) "icon") ≠
      firstPresent? (Metadata.descriptions { description := some "A page", openGraph := { description := some "" } }) ∧
    (({} : CardStyle).shownImage? (({} : CardStyle).card (.ofMetadata { scheme := "https", host := some (.name "a.b") }
        { openGraph := { images := [{}] }, twitterCard := { images := [{ url := "https://a.b/t.png" }] } })
          "icon")).map (·.src) ≠
      (firstPresent? (Metadata.imageUrls
        { openGraph := { images := [{}] }, twitterCard := { images := [{ url := "https://a.b/t.png" }] } })).map some := by
  decide +kernel

end CardStyle

end LinkEmbed
