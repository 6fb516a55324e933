import LinkEmbed.Entries
import LinkEmbed.Proofs.OEmbed.Numbers

/-!
# Fields of oEmbed documents

What the readers of a document come to, without the order in which they go through its fields. A field has a value
where its reader gives one (`OEmbed.Reads`), and a document is the sum of its fields (`OEmbed.ReadFrom`). The check
that goes through all fields first only decides which error is reported.

* `OEmbed.Reads.leftOut_eq_ok_iff`, `OEmbed.Reads.required_eq_ok_iff` — one field, which may be missing or not.
* `OEmbed.checkFields_eq_ok_iff` — the check passes exactly if each field passes it, where no name occurs twice.
* `OEmbed.readCommon_eq_ok_iff_readFrom` — the common fields.
* `OEmbed.OwnFields.ofFields_eq_ok_iff` — photos, videos and other content at once: each has a text and two sizes of
  its own, and only differs in their names and in whether sizes may be missing.
* `OEmbed.ofFields_eq_ok_iff` — a document of any kind is what its fields say.
-/

namespace LinkEmbed

namespace OEmbed

/-! ## Texts and versions -/

/-- A text. -/
inductive IsText : Json → String → Prop where
  | text (s : String) : IsText (.text s) s

/-- The reader of texts takes texts. -/
theorem readText_eq_ok_iff {v : Json} {s : String} : readText v = .ok s ↔ IsText v s := by
  constructor
  · intro h
    unfold readText at h
    split at h
    next t => exact Except.ok.inj h ▸ .text t
    next => cases h
  · rintro ⟨⟩
    rfl

/-- A version is a text, or a number that is written out. -/
inductive IsVersion : Json → String → Prop where
  | text (s : String) : IsVersion (.text s) s
  | integer (i : Int) : IsVersion (.integer i) (Binary64.ofInt i).exactText
  | float (x : Binary64) : IsVersion (.float x) x.exactText

/-- The reader of versions takes texts and numbers. -/
theorem readVersion_eq_ok_iff {v : Json} {s : String} : readVersion v = .ok s ↔ IsVersion v s := by
  constructor
  · intro h
    unfold readVersion at h
    split at h
    next t => exact Except.ok.inj h ▸ .text t
    next i => exact Except.ok.inj h ▸ .integer i
    next x => exact Except.ok.inj h ▸ .float x
    next => cases h
  · rintro (t | i | x) <;> rfl

/-! ## Fields by name -/

section

variable {α : Type} {P : Json → α → Prop}

/-- A field that may be left out or null: it has a value where `P` takes what stands there for one. -/
inductive Optionally (P : Json → α → Prop) : Option Json → Option α → Prop where
  | absent : Optionally P none none
  | null : Optionally P (some .null) none
  | value {v : Json} {a : α} : P v a → Optionally P (some v) (some a)

/-- A field that has a value is there. -/
theorem optionally_some_iff {o : Option Json} {a : α} : Optionally P o (some a) ↔ ∃ v, o = some v ∧ P v a := by
  constructor
  · intro h
    cases h with
    | value hv => exact ⟨_, rfl, hv⟩
  · rintro ⟨v, rfl, hv⟩
    exact .value hv

/-- A reader takes exactly the values that `P` relates to a result, and `null` is none of them. -/
structure Reads (read : Json → Read α) (P : Json → α → Prop) : Prop where
  eq_ok_iff : ∀ v a, read v = .ok a ↔ P v a
  not_null : ∀ a, ¬ P .null a

theorem reads_text : Reads readText IsText :=
  ⟨fun _ _ => readText_eq_ok_iff, fun _ h => nomatch h⟩

theorem reads_version : Reads readVersion IsVersion :=
  ⟨fun _ _ => readVersion_eq_ok_iff, fun _ h => nomatch h⟩

theorem reads_dimension : Reads readDimension IsSize :=
  ⟨fun _ _ => readDimension_eq_ok_iff, fun _ ⟨_, h, _⟩ => nomatch h⟩

theorem reads_age : Reads readAge IsAge :=
  ⟨fun _ _ => readAge_eq_ok_iff, fun _ ⟨_, h, _⟩ => nomatch h⟩

variable {read : Json → Read α} {name : String} {fields : List (String × Json)}

/-- A field that is there may be `null` instead of a value. -/
theorem Reads.optional_eq_ok_iff (h : Reads read P) {v : Json} {r : Option α} :
    optional read v = .ok r ↔ Optionally P (some v) r := by
  by_cases hv : v = .null
  · subst hv
    constructor
    · intro hr
      obtain rfl := Except.ok.inj hr
      exact .null
    · rintro (_ | _ | hnull)
      · rfl
      · exact absurd hnull (h.not_null _)
  · -- The reader itself never takes `null`, so only other values are left to it.
    have hread : optional read v = (read v).map some := by
      cases v <;> first | rfl | exact absurd rfl hv
    rw [hread, map_eq_ok_iff]
    constructor
    · rintro ⟨a, ha, rfl⟩
      exact .value ((h.eq_ok_iff v a).mp ha)
    · rintro (_ | _ | ha)
      · exact absurd rfl hv
      · exact ⟨_, (h.eq_ok_iff v _).mpr ha, rfl⟩

/-- A field that is not needed may be missing, too. -/
theorem Reads.leftOut_eq_ok_iff (h : Reads read P) {r : Option α} :
    leftOut name read fields = .ok r ↔ Optionally P (fields.lookup name) r := by
  unfold leftOut
  cases fields.lookup name with
  | none =>
    constructor
    · intro hr
      obtain rfl := Except.ok.inj hr
      exact .absent
    · rintro ⟨⟩
      rfl
  | some v => exact h.optional_eq_ok_iff

/-- A field that is needed is there and can be read. -/
theorem required_eq_ok_iff {a : α} :
    required name read fields = .ok a ↔ ∃ v, fields.lookup name = some v ∧ read v = .ok a := by
  unfold required
  cases fields.lookup name <;> simp

/-- So it has a value, and is not `null`. -/
theorem Reads.required_eq_ok_iff (h : Reads read P) {a : α} :
    required name read fields = .ok a ↔ Optionally P (fields.lookup name) (some a) := by
  rw [OEmbed.required_eq_ok_iff, optionally_some_iff]
  exact exists_congr fun v => and_congr_right fun _ => h.eq_ok_iff v a

/-- The check of a value asks only whether it can be read. -/
theorem accepts_eq_ok_iff {v : Json} : accepts read v = .ok () ↔ ∃ a, read v = .ok a := by
  rw [accepts, map_eq_ok_iff]
  simp

/-- Where no name occurs twice, fields are in order if each of them is. -/
theorem checkFields_eq_ok_iff {check : String → Option (Json → Read Unit)} {seen : List String}
    (hdistinct : (entryNames fields).Nodup) (hseen : ∀ n ∈ entryNames fields, n ∉ seen) :
    checkFields check seen fields = .ok () ↔ ∀ e ∈ fields, ∀ r, check e.1 = some r → r e.2 = .ok () := by
  induction fields generalizing seen with
  | nil => simp [checkFields]
  | cons e rest ih =>
    obtain ⟨n, v⟩ := e
    obtain ⟨hn, hrest⟩ := List.nodup_cons.mp hdistinct
    obtain ⟨hnew, htail⟩ := List.forall_mem_cons.mp hseen
    rw [List.forall_mem_cons, checkFields]
    cases hcheck : check n with
    | none => simp [ih hrest htail]
    | some r =>
      -- The names behind are not among those seen, as none occurs twice.
      have hmore : ∀ k ∈ entryNames rest, k ∉ n :: seen := by
        intro k hk hmem
        rcases List.mem_cons.mp hmem with rfl | hmem
        · exact hn hk
        · exact htail k hk hmem
      have hunseen : ¬ seen.contains n = true := by simpa using hnew
      dsimp only
      rw [if_neg hunseen, bind_eq_ok_iff]
      constructor
      · rintro ⟨⟨⟩, hv, hr⟩
        exact ⟨fun s hs => Option.some.inj hs ▸ hv, (ih hrest hmore).mp hr⟩
      · rintro ⟨hv, hr⟩
        exact ⟨(), hv r rfl, (ih hrest hmore).mpr hr⟩

end

/-! ## Documents -/

section

variable {fields : List (String × Json)}

/-- A field that was read passes the check, as it goes by the same reader. -/
theorem accepts_of_leftOut {α : Type} {read : Json → Read α} {name : String} {r : Option α} {v : Json}
    (h : leftOut name read fields = .ok r) (hv : fields.lookup name = some v) :
    accepts (optional read) v = .ok () := by
  rw [leftOut, hv] at h
  exact accepts_eq_ok_iff.mpr ⟨r, h⟩

/-- So does one that is needed. -/
theorem accepts_of_required {α : Type} {read : Json → Read α} {name : String} {a : α} {v : Json}
    (h : required name read fields = .ok a) (hv : fields.lookup name = some v) : accepts read v = .ok () := by
  obtain ⟨w, hw, ha⟩ := required_eq_ok_iff.mp h
  obtain rfl := Option.some.inj (hv.symm.trans hw)
  exact accepts_eq_ok_iff.mpr ⟨a, ha⟩

/-- The check passes if every field that has one passes its own. -/
theorem checkFields_of_lookup {check : String → Option (Json → Read Unit)} (hdistinct : (entryNames fields).Nodup)
    (h : ∀ n r, check n = some r → ∀ v, fields.lookup n = some v → r v = .ok ()) :
    checkFields check [] fields = .ok () := by
  rw [checkFields_eq_ok_iff hdistinct fun _ _ => List.not_mem_nil]
  rintro ⟨n, v⟩ hmem r hr
  exact h n r hr v ((lookup_eq_some_iff hdistinct).mpr hmem)

/-- The common fields are read if each of them is. -/
theorem readCommon_eq_ok_iff (hdistinct : (entryNames fields).Nodup) {c : OEmbedCommon} :
    readCommon fields = .ok c ↔
      leftOut "version" readVersion fields = .ok c.version ∧ leftOut "title" readText fields = .ok c.title ∧
      leftOut "author_name" readText fields = .ok c.authorName ∧
      leftOut "author_url" readText fields = .ok c.authorUrl ∧
      leftOut "provider_name" readText fields = .ok c.providerName ∧
      leftOut "provider_url" readText fields = .ok c.providerUrl ∧
      leftOut "cache_age" readAge fields = .ok c.cacheAge ∧
      leftOut "thumbnail_url" readText fields = .ok c.thumbnailUrl ∧
      leftOut "thumbnail_width" readDimension fields = .ok c.thumbnailWidth ∧
      leftOut "thumbnail_height" readDimension fields = .ok c.thumbnailHeight := by
  constructor
  · intro h
    simp only [readCommon, bind_eq_ok_iff] at h
    obtain ⟨-, -, version, h₁, title, h₂, authorName, h₃, authorUrl, h₄, providerName, h₅, providerUrl, h₆,
      cacheAge, h₇, thumbnailUrl, h₈, thumbnailWidth, h₉, thumbnailHeight, h₁₀, h⟩ := h
    obtain rfl := Except.ok.inj h
    exact ⟨h₁, h₂, h₃, h₄, h₅, h₆, h₇, h₈, h₉, h₁₀⟩
  · rintro ⟨h₁, h₂, h₃, h₄, h₅, h₆, h₇, h₈, h₉, h₁₀⟩
    -- Reading goes by the same readers as the check, so the check refuses nothing more.
    have hcheck : checkFields checkCommon [] fields = .ok () := by
      refine checkFields_of_lookup hdistinct fun n r hr v hv => ?_
      unfold checkCommon at hr
      split at hr
      · exact Option.some.inj hr ▸ accepts_of_leftOut h₁ hv
      · exact Option.some.inj hr ▸ accepts_of_leftOut h₂ hv
      · exact Option.some.inj hr ▸ accepts_of_leftOut h₃ hv
      · exact Option.some.inj hr ▸ accepts_of_leftOut h₄ hv
      · exact Option.some.inj hr ▸ accepts_of_leftOut h₅ hv
      · exact Option.some.inj hr ▸ accepts_of_leftOut h₆ hv
      · exact Option.some.inj hr ▸ accepts_of_leftOut h₇ hv
      · exact Option.some.inj hr ▸ accepts_of_leftOut h₈ hv
      · exact Option.some.inj hr ▸ accepts_of_leftOut h₉ hv
      · exact Option.some.inj hr ▸ accepts_of_leftOut h₁₀ hv
      · cases hr
    simp only [readCommon, bind_eq_ok_iff]
    exact ⟨(), hcheck, _, h₁, _, h₂, _, h₃, _, h₄, _, h₅, _, h₆, _, h₇, _, h₈, _, h₉, _, h₁₀, rfl⟩

end

end OEmbed

/-! ## What a document says -/

/-- The texts common to all kinds, by the names of their fields. -/
def OEmbedCommon.texts (c : OEmbedCommon) : List (String × Option String) :=
  [("title", c.title), ("author_name", c.authorName), ("author_url", c.authorUrl),
   ("provider_name", c.providerName), ("provider_url", c.providerUrl), ("thumbnail_url", c.thumbnailUrl)]

/-- The sizes common to all kinds, by the names of their fields. -/
def OEmbedCommon.sizes (c : OEmbedCommon) : List (String × Option Nat) :=
  [("thumbnail_width", c.thumbnailWidth), ("thumbnail_height", c.thumbnailHeight)]

namespace OEmbed

/-- The texts of a document, by the names of their fields. -/
def texts : OEmbed → List (String × Option String)
  | .photo p => ("url", some p.url) :: p.common.texts
  | .video v => ("html", some v.html) :: v.common.texts
  | .link c => c.texts
  | .rich r => ("html", some r.html) :: r.common.texts

/-- The sizes of a document, by the names of their fields. -/
def sizes : OEmbed → List (String × Option Nat)
  | .photo p => ("width", some p.width) :: ("height", some p.height) :: p.common.sizes
  | .video v => ("width", some v.width) :: ("height", some v.height) :: v.common.sizes
  | .link c => c.sizes
  | .rich r => ("width", r.width) :: ("height", r.height) :: r.common.sizes

/-- Every field of a document is what stands under its name. -/
structure ReadFrom (look : String → Option Json) (e : OEmbed) : Prop where
  texts : ∀ f ∈ e.texts, Optionally IsText (look f.1) f.2
  version : Optionally IsVersion (look "version") e.common.version
  sizes : ∀ f ∈ e.sizes, Optionally IsSize (look f.1) f.2
  age : Optionally IsAge (look "cache_age") e.common.cacheAge

section

variable {fields : List (String × Json)}

/-- The common fields are a document of the kind that has no others. -/
theorem readCommon_eq_ok_iff_readFrom (hdistinct : (entryNames fields).Nodup) {c : OEmbedCommon} :
    readCommon fields = .ok c ↔ (OEmbed.link c).ReadFrom fun n => fields.lookup n := by
  rw [readCommon_eq_ok_iff hdistinct, reads_version.leftOut_eq_ok_iff, reads_age.leftOut_eq_ok_iff]
  simp only [reads_text.leftOut_eq_ok_iff, reads_dimension.leftOut_eq_ok_iff]
  constructor
  · rintro ⟨version, title, authorName, authorUrl, providerName, providerUrl, age, thumbnailUrl, width, height⟩
    refine ⟨?_, version, ?_, age⟩
    · simpa [texts, OEmbedCommon.texts] using ⟨title, authorName, authorUrl, providerName, providerUrl, thumbnailUrl⟩
    · simpa [sizes, OEmbedCommon.sizes] using ⟨width, height⟩
  · rintro ⟨htexts, version, hsizes, age⟩
    simp only [texts, OEmbedCommon.texts, List.forall_mem_cons] at htexts
    simp only [sizes, OEmbedCommon.sizes, List.forall_mem_cons] at hsizes
    obtain ⟨title, authorName, authorUrl, providerName, providerUrl, thumbnailUrl, -⟩ := htexts
    obtain ⟨width, height, -⟩ := hsizes
    exact ⟨version, title, authorName, authorUrl, providerName, providerUrl, age, thumbnailUrl, width, height⟩

/-! ## Kinds with fields of their own -/

/-- How the sizes of a kind are read: they have to be there, or they may be missing. -/
structure SizeReader (α : Type) where
  /-- Whether a size has to be there. -/
  needed : Bool
  read : String → List (String × Json) → Read α
  check : Json → Read Unit
  /-- The size, if it is there. -/
  size? : α → Option Nat
  eq_ok_iff : ∀ {n fields r}, read n fields = .ok r ↔ Optionally IsSize (fields.lookup n) (size? r)
  check_of_read : ∀ {n fields r v}, read n fields = .ok r → fields.lookup n = some v → check v = .ok ()
  exists_size?_iff : ∀ o, (∃ r, size? r = o) ↔ (needed = true → o.isSome = true)

/-- A size that has to be there. -/
def neededSize : SizeReader Nat where
  needed := true
  read n := required n readDimension
  check := accepts readDimension
  size? := some
  eq_ok_iff := reads_dimension.required_eq_ok_iff
  check_of_read := accepts_of_required
  exists_size?_iff o := by cases o <;> simp

/-- A size that may be missing. -/
def freeSize : SizeReader (Option Nat) where
  needed := false
  read n := leftOut n readDimension
  check := accepts (optional readDimension)
  size? := id
  eq_ok_iff := reads_dimension.leftOut_eq_ok_iff
  check_of_read := accepts_of_leftOut
  exists_size?_iff o := by simp

/-- A kind of documents that has a text, a width and a height of its own: which documents are of the kind, what they
say, and how they are read. -/
structure OwnFields (kind : OEmbedKind) (α : Type) where
  /-- The name of the text. -/
  name : String
  size : SizeReader α
  make : String → α → α → OEmbedCommon → OEmbed
  kind_make : ∀ text width height common, (make text width height common).kind = kind
  exists_eq_make : ∀ {e : OEmbed}, e.kind = kind → ∃ text width height common, e = make text width height common
  texts_make : ∀ text width height common,
    (make text width height common).texts = (name, some text) :: common.texts
  sizes_make : ∀ text width height common, (make text width height common).sizes =
    ("width", size.size? width) :: ("height", size.size? height) :: common.sizes
  common_make : ∀ text width height common, (make text width height common).common = common
  ofFields_eq : ∀ fields, ofFields kind fields = do
    checkFields (checkOwn kind) [] fields
    let text ← required name readText fields
    let width ← size.read "width" fields
    let height ← size.read "height" fields
    return make text width height (← readCommon fields)
  checkOwn_mem : ∀ {n r}, checkOwn kind n = some r →
    (n, r) ∈ [(name, accepts readText), ("width", size.check), ("height", size.check)]

/-- The text of a photo is the address of an image. -/
def ofPhoto : OwnFields .photo Nat where
  name := "url"
  size := neededSize
  make url width height common := .photo { common, url, width, height }
  kind_make _ _ _ _ := rfl
  exists_eq_make {e} h := by
    cases e with
    | photo p => exact ⟨p.url, p.width, p.height, p.common, rfl⟩
    | _ => cases h
  texts_make _ _ _ _ := rfl
  sizes_make _ _ _ _ := rfl
  common_make _ _ _ _ := rfl
  ofFields_eq _ := rfl
  checkOwn_mem h := by
    unfold checkOwn at h
    split at h <;> simp_all [neededSize]

/-- The text of a video is a piece of markup. -/
def ofVideo : OwnFields .video Nat where
  name := "html"
  size := neededSize
  make html width height common := .video { common, html, width, height }
  kind_make _ _ _ _ := rfl
  exists_eq_make {e} h := by
    cases e with
    | video v => exact ⟨v.html, v.width, v.height, v.common, rfl⟩
    | _ => cases h
  texts_make _ _ _ _ := rfl
  sizes_make _ _ _ _ := rfl
  common_make _ _ _ _ := rfl
  ofFields_eq _ := rfl
  checkOwn_mem h := by
    unfold checkOwn at h
    split at h <;> simp_all [neededSize]

/-- So is the text of any other content, whose sizes may be missing. -/
def ofRich : OwnFields .rich (Option Nat) where
  name := "html"
  size := freeSize
  make html width height common := .rich { common, html, width, height }
  kind_make _ _ _ _ := rfl
  exists_eq_make {e} h := by
    cases e with
    | rich r => exact ⟨r.html, r.width, r.height, r.common, rfl⟩
    | _ => cases h
  texts_make _ _ _ _ := rfl
  sizes_make _ _ _ _ := rfl
  common_make _ _ _ _ := rfl
  ofFields_eq _ := rfl
  checkOwn_mem h := by
    unfold checkOwn at h
    split at h <;> simp_all [freeSize]

namespace OwnFields

variable {kind : OEmbedKind} {α : Type} (o : OwnFields kind α) {look : String → Option Json} {e : OEmbed}
include o

/-- A document is read from its own fields and from the common fields. -/
theorem readFrom_make_iff {text : String} {width height : α} {common : OEmbedCommon} :
    (o.make text width height common).ReadFrom look ↔
      Optionally IsText (look o.name) (some text) ∧ Optionally IsSize (look "width") (o.size.size? width) ∧
      Optionally IsSize (look "height") (o.size.size? height) ∧ (OEmbed.link common).ReadFrom look := by
  -- The fields of its own stand in front of the common ones, in both lists.
  have htexts := o.texts_make text width height common
  have hsizes := o.sizes_make text width height common
  have hcommon := o.common_make text width height common
  constructor
  · rintro ⟨ht, hversion, hs, hage⟩
    rw [htexts] at ht
    rw [hsizes] at hs
    rw [hcommon] at hversion hage
    obtain ⟨htext, ht⟩ := List.forall_mem_cons.mp ht
    obtain ⟨hwidth, hs⟩ := List.forall_mem_cons.mp hs
    obtain ⟨hheight, hs⟩ := List.forall_mem_cons.mp hs
    exact ⟨htext, hwidth, hheight, ht, hversion, hs, hage⟩
  · rintro ⟨htext, hwidth, hheight, ht, hversion, hs, hage⟩
    constructor
    · rw [htexts]
      exact List.forall_mem_cons.mpr ⟨htext, ht⟩
    · rw [hcommon]
      exact hversion
    · rw [hsizes]
      exact List.forall_mem_cons.mpr ⟨hwidth, List.forall_mem_cons.mpr ⟨hheight, hs⟩⟩
    · rw [hcommon]
      exact hage

/-- The check of the own fields passes if each of them can be read. -/
theorem checkFields_of_reads (hdistinct : (entryNames fields).Nodup) {text : String} {width height : α}
    (htext : required o.name readText fields = .ok text) (hwidth : o.size.read "width" fields = .ok width)
    (hheight : o.size.read "height" fields = .ok height) : checkFields (checkOwn kind) [] fields = .ok () := by
  refine checkFields_of_lookup hdistinct fun n r hr v hv => ?_
  rcases List.mem_cons.mp (o.checkOwn_mem hr) with hn | hn
  · obtain ⟨rfl, rfl⟩ := Prod.mk.inj hn
    exact accepts_of_required htext hv
  · rcases List.mem_cons.mp hn with hn | hn
    · obtain ⟨rfl, rfl⟩ := Prod.mk.inj hn
      exact o.size.check_of_read hwidth hv
    · obtain ⟨rfl, rfl⟩ := Prod.mk.inj (List.mem_singleton.mp hn)
      exact o.size.check_of_read hheight hv

/-- A document of a kind with fields of its own is what its fields say. -/
theorem ofFields_eq_ok_iff (hdistinct : (entryNames fields).Nodup) :
    ofFields kind fields = .ok e ↔ e.kind = kind ∧ e.ReadFrom fun n => fields.lookup n := by
  rw [o.ofFields_eq]
  simp only [bind_eq_ok_iff]
  constructor
  · rintro ⟨-, -, text, htext, width, hwidth, height, hheight, common, hcommon, h⟩
    obtain rfl := Except.ok.inj h
    refine ⟨o.kind_make text width height common, o.readFrom_make_iff.mpr ⟨?_, ?_, ?_, ?_⟩⟩
    · exact reads_text.required_eq_ok_iff.mp htext
    · exact o.size.eq_ok_iff.mp hwidth
    · exact o.size.eq_ok_iff.mp hheight
    · exact (readCommon_eq_ok_iff_readFrom hdistinct).mp hcommon
  · rintro ⟨hkind, h⟩
    -- Every document of the kind is made of a text, two sizes and common fields.
    obtain ⟨text, width, height, common, rfl⟩ := o.exists_eq_make hkind
    obtain ⟨htext, hwidth, hheight, hcommon⟩ := o.readFrom_make_iff.mp h
    have htext := reads_text.required_eq_ok_iff.mpr htext
    have hwidth := o.size.eq_ok_iff.mpr hwidth
    have hheight := o.size.eq_ok_iff.mpr hheight
    have hcommon := (readCommon_eq_ok_iff_readFrom hdistinct).mpr hcommon
    exact ⟨(), o.checkFields_of_reads hdistinct htext hwidth hheight, text, htext, width, hwidth, height, hheight,
      common, hcommon, rfl⟩

end OwnFields

/-- A document without fields of its own is what the common fields say. -/
theorem ofFields_link_eq_ok_iff (hdistinct : (entryNames fields).Nodup) {e : OEmbed} :
    ofFields .link fields = .ok e ↔ e.kind = .link ∧ e.ReadFrom fun n => fields.lookup n := by
  have hcheck : checkFields (checkOwn .link) [] fields = .ok () :=
    checkFields_of_lookup hdistinct fun n r hr => by cases hr
  simp only [ofFields, bind_eq_ok_iff]
  constructor
  · rintro ⟨-, -, common, hcommon, h⟩
    obtain rfl := Except.ok.inj h
    exact ⟨rfl, (readCommon_eq_ok_iff_readFrom hdistinct).mp hcommon⟩
  · rintro ⟨hkind, h⟩
    cases e with
    | link common => exact ⟨(), hcheck, common, (readCommon_eq_ok_iff_readFrom hdistinct).mpr h, rfl⟩
    | _ => cases hkind

/-- A document of any kind is what its fields say. -/
theorem ofFields_eq_ok_iff (hdistinct : (entryNames fields).Nodup) {kind : OEmbedKind} {e : OEmbed} :
    ofFields kind fields = .ok e ↔ e.kind = kind ∧ e.ReadFrom fun n => fields.lookup n := by
  cases kind with
  | photo => exact ofPhoto.ofFields_eq_ok_iff hdistinct
  | video => exact ofVideo.ofFields_eq_ok_iff hdistinct
  | link => exact ofFields_link_eq_ok_iff hdistinct
  | rich => exact ofRich.ofFields_eq_ok_iff hdistinct

end

end OEmbed

end LinkEmbed
