import LinkEmbed.Metadata.Extract
import Mathlib.Data.List.Infix
import Mathlib.Data.List.TakeWhile

/-!
# Images of pages

The tags of a family name images, one after another, and describe them. A description is meant for the image that
was named before it. If that one was left out, the description goes to the last image that was not.

* `imagesWith` — the images that tags name, each with what is found for it in the tags behind it.
* `images_eq` — a page has an image for each tag that names one at an address that can be resolved, in their order,
  with the last description before the next such tag.
* `pageAlt?_eq` — that is its own description, unless a stray one comes after it.
* `ofHtml_images` — both families, and when every image has its own description.
* `ofHtml_images_stray` — a page where one has not.
-/

namespace LinkEmbed

open Html (Found)

namespace Html.Found

/-! ## Tags of a family -/

/-- Whether a tag names an image of a family. -/
def namesImage (key family : String) (e : Found) : Bool := e.isMeta key family || e.isMeta key (family ++ ":url")

/-- The address of the image that a tag names, if it can be resolved. -/
def imageUrl? (page : Url) (key family : String) (e : Found) : Option String :=
  if e.namesImage key family then (e.nonBlank? "content").bind (ExtractedPage.resolve? page) else none

/-- What a tag says of an image of a family, unless it is blank. -/
def altText? (key family : String) (e : Found) : Option String :=
  if e.isMeta key (family ++ ":alt") then e.nonBlank? "content" else none

/-- Whether a tag names an image of a page, at an address that can be resolved. -/
def givesImage (page : Url) (key family : String) (e : Found) : Bool := (e.imageUrl? page key family).isSome

end Html.Found

namespace ExtractedPage

/-! ## Descriptions and images -/

/-- What the last of some tags to describe an image of a family says. -/
def lastAlt? (key family : String) (tags : List Found) : Option String :=
  tags.reverse.findSome? (Found.altText? key family)

/-- What is said of an image before a further tag names one. -/
def ownAlt? (key family : String) (behind : List Found) : Option String :=
  lastAlt? key family (behind.takeWhile fun e => !e.namesImage key family)

/-- What is said behind an image of other images, which are left out, before the next image of the page. -/
def strayAlt? (page : Url) (key family : String) (behind : List Found) : Option String :=
  lastAlt? key family
    ((behind.takeWhile fun e => !e.givesImage page key family).dropWhile fun e => !e.namesImage key family)

/-- What is said behind an image before the next image of the page. -/
def pageAlt? (page : Url) (key family : String) (behind : List Found) : Option String :=
  lastAlt? key family (behind.takeWhile fun e => !e.givesImage page key family)

/-- The images that tags name at addresses that can be resolved, in their order, with what `alt?` finds for each in
the tags behind it. -/
def imagesWith (alt? : List Found → Option String) (page : Url) (key family : String) (tags : List Found) :
    List MetaImage :=
  tags.tails.filterMap fun
    | [] => none
    | e :: behind => (e.imageUrl? page key family).map fun url => { url, alt := alt? behind }

section

variable {page : Url} {key family : String} {e : Found} {alt? alt?' : List Found → Option String}

/-- What is said later counts for more. -/
theorem lastAlt?_append (l r : List Found) :
    lastAlt? key family (l ++ r) = (lastAlt? key family r).or (lastAlt? key family l) := by
  rw [lastAlt?, List.reverse_append, List.findSome?_append]
  rfl

/-- So what a first tag says counts if nothing is said behind it. -/
theorem lastAlt?_cons (e : Found) (r : List Found) :
    lastAlt? key family (e :: r) = (lastAlt? key family r).or (e.altText? key family) := by
  rw [← List.singleton_append, lastAlt?_append]
  congr 1
  cases h : e.altText? key family <;> simp [lastAlt?, h]

theorem imagesWith_of_some {url : String} (h : e.imageUrl? page key family = some url) (r : List Found) :
    imagesWith alt? page key family (e :: r) = { url, alt := alt? r } :: imagesWith alt? page key family r := by
  simp [imagesWith, h]

theorem imagesWith_of_none (h : e.imageUrl? page key family = none) (r : List Found) :
    imagesWith alt? page key family (e :: r) = imagesWith alt? page key family r := by
  simp [imagesWith, h]

/-- There is one image for each tag that names one at an address that can be resolved. -/
theorem map_url_imagesWith (tags : List Found) :
    (imagesWith alt? page key family tags).map (·.url) = tags.filterMap (Found.imageUrl? page key family) := by
  induction tags with
  | nil => rfl
  | cons e r ih =>
    cases h : e.imageUrl? page key family with
    | none => rw [imagesWith_of_none h, List.filterMap_cons_none h, ih]
    | some url => rw [imagesWith_of_some h, List.map_cons, List.filterMap_cons_some h, ih]

/-- Two ways to describe images come to the same if they do so for each of them. -/
theorem imagesWith_eq_iff {tags : List Found} :
    imagesWith alt? page key family tags = imagesWith alt?' page key family tags ↔
      ∀ e behind, e :: behind <:+ tags → e.givesImage page key family = true → alt? behind = alt?' behind := by
  induction tags with
  | nil =>
    refine iff_of_true rfl ?_
    intro e behind hsuffix
    cases List.suffix_nil.mp hsuffix
  | cons e r ih =>
    -- What is asked of every tag is asked of the first and of all behind it.
    have hrest : (∀ d behind, d :: behind <:+ e :: r → d.givesImage page key family = true →
          alt? behind = alt?' behind) ↔
        (e.givesImage page key family = true → alt? r = alt?' r) ∧
          ∀ d behind, d :: behind <:+ r → d.givesImage page key family = true → alt? behind = alt?' behind := by
      constructor
      · intro hall
        exact ⟨hall e r List.suffix_rfl, fun d behind hd => hall d behind (hd.trans (List.suffix_cons e r))⟩
      · rintro ⟨hfirst, hlater⟩ d behind hd
        rcases List.suffix_cons_iff.mp hd with heq | hd
        · obtain ⟨rfl, rfl⟩ := List.cons.inj heq
          exact hfirst
        · exact hlater d behind hd
    rw [hrest, ← ih]
    cases h : e.imageUrl? page key family with
    | none => simp [imagesWith_of_none h, Found.givesImage, h]
    | some url => simp [imagesWith_of_some h, Found.givesImage, h]

/-! ## Going through the tags -/

/-- What one tag adds to the images before it. -/
def addTag (page : Url) (key family : String) (images : List MetaImage) (e : Found) : List MetaImage :=
  match e.imageUrl? page key family with
  | some url => images ++ [{ url }]
  | none =>
    match e.altText? key family with
    | some alt => describeLast alt images
    | none => images

theorem addTag_of_url {url : String} (h : e.imageUrl? page key family = some url) (images : List MetaImage) :
    addTag page key family images e = images ++ [{ url := url }] := by
  rw [addTag, h]

theorem addTag_of_alt {alt : String} (h : e.imageUrl? page key family = none)
    (halt : e.altText? key family = some alt) (images : List MetaImage) :
    addTag page key family images e = describeLast alt images := by
  rw [addTag, h, halt]

theorem addTag_of_neither (h : e.imageUrl? page key family = none) (halt : e.altText? key family = none)
    (images : List MetaImage) : addTag page key family images e = images := by
  rw [addTag, h, halt]

/-- The last image is described, and the images before it stay as they are. -/
theorem describeLast_append (alt : String) (images : List MetaImage) (i : MetaImage) :
    describeLast alt (images ++ [i]) = images ++ [{ i with alt := some alt }] := by
  induction images with
  | nil => rfl
  | cons j r ih =>
    rw [List.cons_append, describeLast, ih, List.cons_append]
    simp

/-- No name is that of an image and of a description. -/
theorem ne_alt_of_names {name : String} (h : name = family ∨ name = family ++ ":url") : name ≠ family ++ ":alt" := by
  intro halt
  rw [halt] at h
  rcases h with hbare | hurl
  · simpa using congrArg String.length hbare
  · rw [String.append_right_inj] at hurl
    exact absurd hurl (by decide)

/-- The images of a family are what the tags add one after another. -/
theorem images_eq_foldl (page : Url) (tags : List Found) (key family : String) :
    images page tags key family = tags.foldl (addTag page key family) [] := by
  unfold images
  congr 1
  funext images e
  unfold addTag Found.imageUrl? Found.altText? Found.namesImage Found.isMeta
  cases e.name.name == "meta" with
  | false => simp
  | true =>
    cases e.value? key with
    | none => simp
    | some name =>
      cases e.nonBlank? "content" with
      | none => simp
      | some content =>
        -- The name says which of the three a tag is; it is never two of them.
        by_cases hnames : name = family ∨ name = family ++ ":url"
        · have halt := ne_alt_of_names hnames
          cases hurl : resolve? page content <;> simp [addImageTag, hnames, halt, hurl]
        · by_cases halt : name = family ++ ":alt"
          · simp [addImageTag, halt]
          · simp [addImageTag, hnames, halt]

theorem pageAlt?_of_some {url : String} (h : e.imageUrl? page key family = some url) (r : List Found) :
    pageAlt? page key family (e :: r) = none := by
  rw [pageAlt?, List.takeWhile_cons_of_neg (by simp [Found.givesImage, h])]
  rfl

theorem pageAlt?_of_none (h : e.imageUrl? page key family = none) (r : List Found) :
    pageAlt? page key family (e :: r) = (pageAlt? page key family r).or (e.altText? key family) := by
  rw [pageAlt?, List.takeWhile_cons_of_pos (by simp [Found.givesImage, h]), lastAlt?_cons]
  rfl

/-- The last image is described as far as the next image of the page, and all images before it stay as they are. -/
theorem foldl_addTag_append (tags : List Found) (images : List MetaImage) (i : MetaImage) :
    tags.foldl (addTag page key family) (images ++ [i]) =
      images ++ { i with alt := (pageAlt? page key family tags).or i.alt } ::
        imagesWith (pageAlt? page key family) page key family tags := by
  -- The induction goes on from the image that was named last.
  induction tags generalizing images i with
  | nil => rfl
  | cons e r ih =>
    rw [List.foldl_cons]
    cases hurl : e.imageUrl? page key family with
    | some url =>
      -- The next image: nothing more is said of the one before it.
      rw [addTag_of_url hurl, ih, pageAlt?_of_some hurl, imagesWith_of_some hurl, Option.or_none, Option.none_or,
        List.append_assoc]
      rfl
    | none =>
      rw [pageAlt?_of_none hurl, imagesWith_of_none hurl]
      cases halt : e.altText? key family with
      | none => rw [addTag_of_neither hurl halt, ih, Option.or_none]
      | some alt =>
        -- What is said later counts for more.
        rw [addTag_of_alt hurl halt, describeLast_append, ih, Option.or_assoc]
        rfl

/-- Each image of the page has the last description before the next image of the page. -/
theorem images_eq (page : Url) (tags : List Found) (key family : String) :
    images page tags key family = imagesWith (pageAlt? page key family) page key family tags := by
  rw [images_eq_foldl]
  induction tags with
  | nil => rfl
  | cons e r ih =>
    rw [List.foldl_cons]
    cases hurl : e.imageUrl? page key family with
    | some url =>
      have hrun : r.foldl (addTag page key family) ([] ++ [{ url := url }]) = _ :=
        foldl_addTag_append r [] { url }
      rw [addTag_of_url hurl, hrun, imagesWith_of_some hurl, Option.or_none, List.nil_append]
    | none =>
      -- What is said before the first image is lost.
      have hlost : addTag page key family [] e = [] := by
        cases halt : e.altText? key family with
        | none => exact addTag_of_neither hurl halt []
        | some alt => exact addTag_of_alt hurl halt []
      rw [hlost, ih, imagesWith_of_none hurl]

theorem namesImage_of_givesImage (h : e.givesImage page key family = true) : e.namesImage key family = true := by
  by_contra hnot
  rw [Found.givesImage, Found.imageUrl?, if_neg hnot] at h
  cases h

/-- The next tag that names an image comes no later than the next image of the page. -/
theorem takeWhile_namesImage (page : Url) (key family : String) (behind : List Found) :
    (behind.takeWhile fun e => !e.givesImage page key family).takeWhile (fun e => !e.namesImage key family) =
      behind.takeWhile fun e => !e.namesImage key family := by
  rw [List.takeWhile_takeWhile]
  congr 1
  funext e
  cases hgives : e.givesImage page key family with
  | true => simp [namesImage_of_givesImage hgives]
  | false => simp

/-- What is said before the next image of the page is said of the image itself, or of one that is left out. -/
theorem pageAlt?_eq (page : Url) (key family : String) (behind : List Found) :
    pageAlt? page key family behind = (strayAlt? page key family behind).or (ownAlt? key family behind) := by
  rw [strayAlt?, ownAlt?, ← lastAlt?_append, ← takeWhile_namesImage page, List.takeWhile_append_dropWhile, pageAlt?]

end

/-! ## The images of a page -/

/-- The images that the tags of a family give to a page. -/
structure AreGiven (page : Url) (key family : String) (tags : List Found) (images : List MetaImage) : Prop where
  /-- There is one for each tag that names one at an address that can be resolved, in the order of the tags. -/
  urls : images.map (·.url) = tags.filterMap (Found.imageUrl? page key family)
  /-- Each has the last description before the next of them. -/
  alts : images = imagesWith (pageAlt? page key family) page key family tags
  /-- Each has its own description exactly if the last stray one that follows, if any, says the same. -/
  own_iff : images = imagesWith (ownAlt? key family) page key family tags ↔
    ∀ e behind, e :: behind <:+ tags → e.givesImage page key family = true →
      ∀ alt, strayAlt? page key family behind = some alt → ownAlt? key family behind = some alt

/-- The images of a family are those that its tags give to the page. -/
theorem areGiven_images (page : Url) (key family : String) (tags : List Found) :
    AreGiven page key family tags (images page tags key family) := by
  rw [images_eq]
  refine ⟨map_url_imagesWith tags, rfl, ?_⟩
  rw [imagesWith_eq_iff]
  have hsame : ∀ behind, pageAlt? page key family behind = ownAlt? key family behind ↔
      ∀ alt, strayAlt? page key family behind = some alt → ownAlt? key family behind = some alt := by
    intro behind
    rw [pageAlt?_eq]
    cases strayAlt? page key family behind with
    | none => simp
    | some alt => simp [eq_comm]
  simp only [hsame]

/-- **Images of a page.** Open Graph readers and Twitter Card readers are given one image for each tag of their
family that names one at an address that can be resolved, in the order of the page. It has the last description
before the next of these tags. That is the last one before the next tag that names any image, unless that tag names
one that is left out and a description follows it which says something else. -/
theorem ofHtml_images (html : String) (page : Url) :
    let tags := (Html.readPage html).elements
    let m := (ofHtml html page).metadata
    AreGiven page "property" "og:image" tags m.openGraph.images ∧
      AreGiven page "name" "twitter:image" tags m.twitterCard.images :=
  ⟨areGiven_images page "property" "og:image" _, areGiven_images page "name" "twitter:image" _⟩

/-- The description of an image that is left out, since its address has no host, is given to the image before it. -/
theorem ofHtml_images_stray :
    (ofHtml ("<meta property=og:image content=/a.png><meta property=og:image content=https://>" ++
        "<meta property=og:image:alt content=B>")
      { scheme := "https", host := some (.name "a.b") }).metadata.openGraph.images =
        [⟨"https://a.b/a.png", some "B"⟩] ∧
    imagesWith (ownAlt? "property" "og:image") { scheme := "https", host := some (.name "a.b") } "property" "og:image"
      (Html.readPage ("<meta property=og:image content=/a.png><meta property=og:image content=https://>" ++
        "<meta property=og:image:alt content=B>")).elements ≠ [⟨"https://a.b/a.png", some "B"⟩] := by
  decide +kernel

end ExtractedPage

end LinkEmbed
