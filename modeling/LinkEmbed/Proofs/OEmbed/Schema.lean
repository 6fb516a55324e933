import LinkEmbed.Proofs.OEmbed.Fields

/-!
# The schema of oEmbed documents

Which JSON values are oEmbed documents, said without the readers: a kind has a list of rules, one for each of its
fields, and a value is a document if its `type` names a kind whose rules all hold. What a document says is given
field by field.

* `Json.hasDistinctNames_ofFields` — no name occurs twice in an object that is built of fields.
* `OEmbed.exists_optionally_iff` — a rule for one field holds where the field can be read.
* `OEmbed.exists_common_iff`, `OEmbed.OwnFields.exists_readFrom_iff`, `OEmbed.exists_readFrom_iff` — so do the rules for
  the common fields, for the own fields of a kind, and for all fields of a kind.
* `OEmbed.ofJson_eq_ok_iff` — what a document is read as.
* `OEmbed.exists_ofJson_iff` — which values are read at all.
* `OEmbed.ofJson_reads` — both, and that names no rule mentions make no difference.
-/

namespace LinkEmbed

/-! ## Names of an object -/

namespace Json

/-- No name occurs twice in an object. This holds of every object that is built of fields
(`hasDistinctNames_ofFields`), as those read from texts are. -/
def HasDistinctNames : Json → Prop
  | .object fields => (entryNames fields).Nodup
  | _ => True

/-- Putting a field in brings no other name in. -/
theorem mem_entryNames_insertField {α : Type} {name k : String} {value : α} {es : List (String × α)}
    (h : k ∈ entryNames (insertField name value es)) : k = name ∨ k ∈ entryNames es := by
  induction es with
  | nil => exact .inl (List.mem_singleton.mp h)
  | cons e r ih =>
    obtain ⟨n, v⟩ := e
    rw [insertField] at h
    split at h
    next => exact (List.mem_cons.mp h).imp id (List.mem_cons_of_mem n)
    next =>
      split at h
      next => exact List.mem_cons.mp h
      next =>
        rcases List.mem_cons.mp h with rfl | hr
        · exact .inr List.mem_cons_self
        · exact (ih hr).imp id (List.mem_cons_of_mem n)

/-- A field is put in its place among names in order. -/
theorem pairwise_insertField {α : Type} {name : String} {value : α} {es : List (String × α)}
    (h : (entryNames es).Pairwise (· < ·)) : (entryNames (insertField name value es)).Pairwise (· < ·) := by
  induction es with
  | nil => exact List.pairwise_singleton _ _
  | cons e r ih =>
    obtain ⟨n, v⟩ := e
    obtain ⟨hn, hr⟩ := List.pairwise_cons.mp h
    rw [insertField]
    split
    next heq => exact heq ▸ h
    next hne =>
      split
      -- The new name is before all others.
      next hlt =>
        refine List.pairwise_cons.mpr ⟨fun k hk => ?_, h⟩
        rcases List.mem_cons.mp hk with rfl | hk
        · exact hlt
        · exact String.lt_trans hlt (hn k hk)
      -- It comes later, so the first name stays first.
      next hge =>
        refine List.pairwise_cons.mpr ⟨fun k hk => ?_, ih hr⟩
        rcases mem_entryNames_insertField hk with rfl | hk
        · exact Std.lt_of_le_of_ne (String.not_lt.mp hge) (Ne.symm hne)
        · exact hn k hk

/-- However an object is built of fields, no name occurs twice in it. -/
theorem hasDistinctNames_ofFields (fields : List (String × Json)) : (ofFields fields).HasDistinctNames := by
  suffices h : ∀ es : List (String × Json), (entryNames es).Pairwise (· < ·) →
      (entryNames (fields.foldl (fun acc f => insertField f.1 f.2 acc) es)).Pairwise (· < ·) from
    (h [] List.Pairwise.nil).imp String.ne_of_lt
  induction fields with
  | nil => exact fun _ h => h
  | cons f r ih => exact fun es h => ih _ (pairwise_insertField h)

end Json

namespace OEmbed

/-! ## Reading a document -/

/-- The kind of a document is given by its name. -/
theorem readKind_eq_ok_iff {v : Json} {kind : OEmbedKind} : readKind v = .ok kind ↔ v = .text kind.name := by
  constructor
  · intro h
    unfold readKind at h
    split at h
    next s =>
      split at h
      next k hname =>
        obtain rfl := Except.ok.inj h
        have hs := List.find?_some hname
        rw [eq_of_beq hs]
      next => cases h
    next => cases h
  · rintro rfl
    rw [readKind, OEmbedKind.ofName?_name]

end OEmbed

/-! ## Rules -/

/-- What the value of a field has to be. -/
inductive FieldShape where
  | text
  | version
  | size
  | age
deriving DecidableEq, Repr

/-- A number, or a text that spells one between white space, from zero up to a bound. -/
def Json.IsNumeric (bound : Nat) (v : Json) : Prop := ∃ x, OEmbed.Denotes v x ∧ x.InRange bound

/-- Whether a value has a shape. The largest size is `2^32 - 1`, and the floating point number nearest to the largest
age is `2^64`. -/
def FieldShape.Fits : FieldShape → Json → Prop
  | .text, v => ∃ s, v = .text s
  | .version, v => (∃ s, v = .text s) ∨ (∃ i, v = .integer i) ∨ ∃ x, v = .float x
  | .size, v => v.IsNumeric (2 ^ 32 - 1)
  | .age, v => v.IsNumeric (2 ^ 64)

/-- A rule for a field: its name, its shape, and whether it has to be there. -/
structure FieldRule where
  name : String
  shape : FieldShape
  required : Bool
deriving DecidableEq, Repr

/-- Whether what stands under a name keeps its rule. A field that does not have to be there may also be `null`. -/
def FieldRule.Holds (r : FieldRule) : Option Json → Prop
  | none => r.required = false
  | some v => r.shape.Fits v ∨ v = .null ∧ r.required = false

namespace OEmbedKind

/-- The rules for the fields common to all kinds. -/
def commonRules : List FieldRule :=
  [⟨"version", .version, false⟩, ⟨"title", .text, false⟩, ⟨"author_name", .text, false⟩, ⟨"author_url", .text, false⟩,
   ⟨"provider_name", .text, false⟩, ⟨"provider_url", .text, false⟩, ⟨"cache_age", .age, false⟩,
   ⟨"thumbnail_url", .text, false⟩, ⟨"thumbnail_width", .size, false⟩, ⟨"thumbnail_height", .size, false⟩]

/-- The rules for the fields that a kind has of its own. -/
def ownRules : OEmbedKind → List FieldRule
  | .photo => [⟨"url", .text, true⟩, ⟨"width", .size, true⟩, ⟨"height", .size, true⟩]
  | .video => [⟨"html", .text, true⟩, ⟨"width", .size, true⟩, ⟨"height", .size, true⟩]
  | .link => []
  | .rich => [⟨"html", .text, true⟩, ⟨"width", .size, false⟩, ⟨"height", .size, false⟩]

/-- The rules for all fields of a kind. -/
def rules (kind : OEmbedKind) : List FieldRule := kind.ownRules ++ commonRules

/-- The names that count in a document of a kind. -/
def fieldNames (kind : OEmbedKind) : List String := "type" :: kind.rules.map FieldRule.name

end OEmbedKind

/-- An oEmbed document: an object whose `type` is the name of a kind, and whose fields keep the rules of that kind. -/
def Json.IsOEmbed (v : Json) : Prop :=
  ∃ fields kind, v = .object fields ∧ fields.lookup "type" = some (.text (OEmbedKind.name kind)) ∧
    ∀ r ∈ kind.rules, r.Holds (fields.lookup r.name)

namespace OEmbed

section

variable {α : Type} {P : Json → α → Prop} {shape : FieldShape} {name : String} {o : Option Json}

/-- A rule holds where its field can be read, and is there if it has to be. -/
theorem exists_optionally_iff {needed : Bool} (hP : ∀ v, (∃ a, P v a) ↔ shape.Fits v) :
    (∃ r, (needed = true → r.isSome = true) ∧ Optionally P o r) ↔ FieldRule.Holds ⟨name, shape, needed⟩ o := by
  constructor
  · rintro ⟨r, hneeded, h⟩
    cases h with
    | absent => simpa [FieldRule.Holds] using hneeded
    | null => exact .inr ⟨rfl, by simpa using hneeded⟩
    | value ha => exact .inl ((hP _).mp ⟨_, ha⟩)
  · intro h
    -- A field may be missing, `null`, or hold a value that fits.
    cases o with
    | none => exact ⟨none, by simp [show needed = false from h], .absent⟩
    | some v =>
      rcases h with hv | ⟨rfl, hfree⟩
      · obtain ⟨a, ha⟩ := (hP v).mpr hv
        exact ⟨some a, fun _ => rfl, .value ha⟩
      · exact ⟨none, by simp [show needed = false from hfree], .null⟩

theorem exists_free_iff (hP : ∀ v, (∃ a, P v a) ↔ shape.Fits v) :
    (∃ r, Optionally P o r) ↔ FieldRule.Holds ⟨name, shape, false⟩ o := by
  simp [← exists_optionally_iff hP]

theorem exists_needed_iff (hP : ∀ v, (∃ a, P v a) ↔ shape.Fits v) :
    (∃ a, Optionally P o (some a)) ↔ FieldRule.Holds ⟨name, shape, true⟩ o := by
  simp [← exists_optionally_iff hP, Option.isSome_iff_exists]

end

/-- Texts fit. -/
theorem exists_isText_iff (v : Json) : (∃ s, IsText v s) ↔ FieldShape.text.Fits v := by
  constructor
  · rintro ⟨s, ⟨⟩⟩
    exact ⟨s, rfl⟩
  · rintro ⟨s, rfl⟩
    exact ⟨s, .text s⟩

/-- Texts and numbers fit as versions. -/
theorem exists_isVersion_iff (v : Json) : (∃ s, IsVersion v s) ↔ FieldShape.version.Fits v := by
  constructor
  · rintro ⟨s, (t | i | x)⟩
    · exact .inl ⟨_, rfl⟩
    · exact .inr (.inl ⟨i, rfl⟩)
    · exact .inr (.inr ⟨x, rfl⟩)
  · rintro (⟨s, rfl⟩ | ⟨i, rfl⟩ | ⟨x, rfl⟩)
    · exact ⟨_, .text s⟩
    · exact ⟨_, .integer i⟩
    · exact ⟨_, .float x⟩

/-- Numbers in range fit as sizes, as rounding leaves none out. -/
theorem exists_isSize_iff (v : Json) : (∃ k, IsSize v k) ↔ FieldShape.size.Fits v := by
  constructor
  · rintro ⟨_, x, hx, hrange, -⟩
    exact ⟨x, hx, hrange⟩
  · rintro ⟨x, hx, hrange⟩
    exact ⟨_, x, hx, hrange, rfl⟩

/-- Likewise as ages. -/
theorem exists_isAge_iff (v : Json) : (∃ k, IsAge v k) ↔ FieldShape.age.Fits v := by
  constructor
  · rintro ⟨_, x, hx, hrange, -⟩
    exact ⟨x, hx, hrange⟩
  · rintro ⟨x, hx, hrange⟩
    exact ⟨_, x, hx, hrange, rfl⟩

section

variable {look : String → Option Json}

/-- The common rules hold exactly where the common fields can be read. -/
theorem exists_common_iff :
    (∃ c, (OEmbed.link c).ReadFrom look) ↔ ∀ r ∈ OEmbedKind.commonRules, r.Holds (look r.name) := by
  simp only [OEmbedKind.commonRules, List.forall_mem_cons, ← exists_free_iff exists_isText_iff,
    ← exists_free_iff exists_isVersion_iff, ← exists_free_iff exists_isSize_iff,
    ← exists_free_iff exists_isAge_iff]
  -- Each of the ten fields is read on its own, and the rules name them in this order.
  constructor
  · rintro ⟨c, htexts, hversion, hsizes, hage⟩
    simp only [texts, OEmbedCommon.texts, List.forall_mem_cons] at htexts
    simp only [sizes, OEmbedCommon.sizes, List.forall_mem_cons] at hsizes
    obtain ⟨title, authorName, authorUrl, providerName, providerUrl, thumbnailUrl, -⟩ := htexts
    obtain ⟨width, height, -⟩ := hsizes
    exact ⟨⟨_, hversion⟩, ⟨_, title⟩, ⟨_, authorName⟩, ⟨_, authorUrl⟩, ⟨_, providerName⟩, ⟨_, providerUrl⟩,
      ⟨_, hage⟩, ⟨_, thumbnailUrl⟩, ⟨_, width⟩, ⟨_, height⟩, List.forall_mem_nil _⟩
  · rintro ⟨⟨version, hversion⟩, ⟨title, htitle⟩, ⟨authorName, hauthorName⟩, ⟨authorUrl, hauthorUrl⟩,
      ⟨providerName, hproviderName⟩, ⟨providerUrl, hproviderUrl⟩, ⟨cacheAge, hage⟩, ⟨thumbnailUrl, hthumbnailUrl⟩,
      ⟨thumbnailWidth, hwidth⟩, ⟨thumbnailHeight, hheight⟩, -⟩
    refine ⟨⟨version, title, authorName, authorUrl, providerName, providerUrl, cacheAge, thumbnailUrl,
      thumbnailWidth, thumbnailHeight⟩, ?_, hversion, ?_, hage⟩
    · simpa [texts, OEmbedCommon.texts] using
        ⟨htitle, hauthorName, hauthorUrl, hproviderName, hproviderUrl, hthumbnailUrl⟩
    · simpa [sizes, OEmbedCommon.sizes] using ⟨hwidth, hheight⟩

/-- The rule for a size holds exactly where the size can be read. -/
theorem SizeReader.exists_iff {α : Type} (s : SizeReader α) {name : String} {o : Option Json} :
    (∃ r, Optionally IsSize o (s.size? r)) ↔ FieldRule.Holds ⟨name, .size, s.needed⟩ o := by
  rw [← exists_optionally_iff exists_isSize_iff]
  constructor
  · rintro ⟨r, h⟩
    exact ⟨s.size? r, (s.exists_size?_iff _).mp ⟨r, rfl⟩, h⟩
  · rintro ⟨_, hneeded, h⟩
    obtain ⟨r, rfl⟩ := (s.exists_size?_iff _).mpr hneeded
    exact ⟨r, h⟩

namespace OwnFields

variable {kind : OEmbedKind} {α : Type} (o : OwnFields kind α)

/-- The rules for the fields that a kind has of its own: a text, and two sizes of one sort. -/
def rules : List FieldRule :=
  [⟨o.name, .text, true⟩, ⟨"width", .size, o.size.needed⟩, ⟨"height", .size, o.size.needed⟩]

/-- A document of a kind with fields of its own can be read exactly where these and the common fields keep their
rules. -/
theorem exists_readFrom_iff : (∃ e : OEmbed, e.kind = kind ∧ e.ReadFrom look) ↔
    ∀ r ∈ o.rules ++ OEmbedKind.commonRules, r.Holds (look r.name) := by
  rw [List.forall_mem_append, ← exists_common_iff]
  simp only [rules, List.forall_mem_cons, ← exists_needed_iff exists_isText_iff, ← o.size.exists_iff]
  constructor
  · rintro ⟨e, hkind, h⟩
    obtain ⟨text, width, height, common, rfl⟩ := o.exists_eq_make hkind
    obtain ⟨htext, hwidth, hheight, hcommon⟩ := o.readFrom_make_iff.mp h
    exact ⟨⟨⟨text, htext⟩, ⟨width, hwidth⟩, ⟨height, hheight⟩, List.forall_mem_nil _⟩, common, hcommon⟩
  · rintro ⟨⟨⟨text, htext⟩, ⟨width, hwidth⟩, ⟨height, hheight⟩, -⟩, common, hcommon⟩
    exact ⟨o.make text width height common, o.kind_make text width height common,
      o.readFrom_make_iff.mpr ⟨htext, hwidth, hheight, hcommon⟩⟩

end OwnFields

/-- The rules of a kind hold exactly where a document of the kind can be read. -/
theorem exists_readFrom_iff {kind : OEmbedKind} :
    (∃ e : OEmbed, e.kind = kind ∧ e.ReadFrom look) ↔ ∀ r ∈ kind.rules, r.Holds (look r.name) := by
  cases kind with
  | photo => exact ofPhoto.exists_readFrom_iff
  | video => exact ofVideo.exists_readFrom_iff
  | rich => exact ofRich.exists_readFrom_iff
  | link =>
    -- There are no other rules than the common ones.
    refine Iff.trans ?_ exists_common_iff
    constructor
    · rintro ⟨e, hkind, h⟩
      cases e with
      | link c => exact ⟨c, h⟩
      | _ => cases hkind
    · rintro ⟨c, h⟩
      exact ⟨.link c, rfl, h⟩

/-- The texts of a document are the fields of its kind whose rule asks for a text. -/
theorem entryNames_texts (e : OEmbed) :
    entryNames e.texts = (e.kind.rules.filter (·.shape = .text)).map FieldRule.name := by
  cases e <;> rfl

/-- The sizes of a document are the fields of its kind whose rule asks for a size. -/
theorem entryNames_sizes (e : OEmbed) :
    entryNames e.sizes = (e.kind.rules.filter (·.shape = .size)).map FieldRule.name := by
  cases e <;> rfl

/-- Only names that count in a document of its kind decide how it is read. -/
theorem ReadFrom.congr {e : OEmbed} (h : e.ReadFrom look) {look' : String → Option Json}
    (hlook : ∀ r ∈ e.kind.rules, look' r.name = look r.name) : e.ReadFrom look' := by
  -- Every name that is looked up is that of a rule.
  have hnames (shape : FieldShape) {n : String}
      (hn : n ∈ (e.kind.rules.filter (·.shape = shape)).map FieldRule.name) : look' n = look n := by
    obtain ⟨r, hr, rfl⟩ := List.mem_map.mp hn
    exact hlook r (List.mem_of_mem_filter hr)
  have hcommon (r : FieldRule) (hr : r ∈ OEmbedKind.commonRules) : look' r.name = look r.name :=
    hlook r (List.mem_append_right _ hr)
  refine ⟨fun f hf => ?_, ?_, fun f hf => ?_, ?_⟩
  · rw [hnames .text (e.entryNames_texts ▸ List.mem_map_of_mem hf)]
    exact h.texts f hf
  · rw [hcommon ⟨"version", .version, false⟩ (by decide)]
    exact h.version
  · rw [hnames .size (e.entryNames_sizes ▸ List.mem_map_of_mem hf)]
    exact h.sizes f hf
  · rw [hcommon ⟨"cache_age", .age, false⟩ (by decide)]
    exact h.age

end

theorem type_notMem_rules (kind : OEmbedKind) : ∀ r ∈ kind.rules, r.name ≠ "type" := by
  cases kind <;> decide

/-- An object is read from its `type` and from the fields of the kind named there. -/
theorem ofJson_eq_ok_iff {v : Json} (hv : v.HasDistinctNames) {e : OEmbed} :
    ofJson v = .ok e ↔ v.field? "type" = some (.text e.kind.name) ∧ e.ReadFrom fun n => v.field? n := by
  cases v with
  | object fields =>
    -- The fields of the kind are read without `type`, which is none of them.
    have hothers := nodup_filter hv fun f => f.1 != "type"
    have hlook (r : FieldRule) (hr : r ∈ e.kind.rules) :
        (fields.filter fun f => f.1 != "type").lookup r.name = fields.lookup r.name :=
      lookup_filter_ne (type_notMem_rules _ r hr) fields
    rw [ofJson, bind_eq_ok_iff]
    simp only [required_eq_ok_iff, readKind_eq_ok_iff, ofFields_eq_ok_iff hothers]
    constructor
    · rintro ⟨kind, ⟨w, hw, rfl⟩, rfl, h⟩
      exact ⟨hw, h.congr fun r hr => (hlook r hr).symm⟩
    · rintro ⟨htype, h⟩
      exact ⟨e.kind, ⟨_, htype, rfl⟩, rfl, h.congr hlook⟩
  | array items =>
    constructor
    · intro h
      cases items with
      | nil => cases h
      | cons w r =>
        rw [ofJson, bind_eq_ok_iff] at h
        obtain ⟨_, -, h⟩ := h
        cases h
    · rintro ⟨htype, -⟩
      cases htype
  | _ =>
    constructor
    · intro h
      cases h
    · rintro ⟨htype, -⟩
      cases htype

/-- Whether a value can be read is decided by the rules of its kind. -/
theorem exists_ofJson_iff {v : Json} (hv : v.HasDistinctNames) : (∃ e, ofJson v = .ok e) ↔ v.IsOEmbed := by
  simp only [ofJson_eq_ok_iff hv]
  constructor
  · rintro ⟨e, htype, h⟩
    cases v with
    | object fields => exact ⟨fields, e.kind, rfl, htype, exists_readFrom_iff.mp ⟨e, rfl, h⟩⟩
    | _ => cases htype
  · rintro ⟨fields, kind, rfl, htype, hrules⟩
    have hread : ∃ e : OEmbed, e.kind = kind ∧ e.ReadFrom fun n => fields.lookup n := exists_readFrom_iff.mpr hrules
    obtain ⟨e, rfl, h⟩ := hread
    exact ⟨e, htype, h⟩

/-- **Reading oEmbed documents.** A value is read exactly if it is a document, the result has the kind that `type`
names and is what the fields say, and names that do not count for its kind make no difference. -/
theorem ofJson_reads (v : Json) (hv : v.HasDistinctNames) :
    ((∃ e, ofJson v = .ok e) ↔ v.IsOEmbed) ∧
    (∀ e, ofJson v = .ok e ↔ v.field? "type" = some (.text e.kind.name) ∧ e.ReadFrom fun n => v.field? n) ∧
    ∀ w : Json, w.HasDistinctNames → ∀ e : OEmbed, (∀ n ∈ e.kind.fieldNames, w.field? n = v.field? n) →
      (ofJson w = .ok e ↔ ofJson v = .ok e) := by
  refine ⟨exists_ofJson_iff hv, fun e => ofJson_eq_ok_iff hv, fun w hw e hsame => ?_⟩
  rw [ofJson_eq_ok_iff hw, ofJson_eq_ok_iff hv, hsame "type" List.mem_cons_self]
  have hrules (r : FieldRule) (hr : r ∈ e.kind.rules) : w.field? r.name = v.field? r.name :=
    hsame r.name (List.mem_cons_of_mem _ (List.mem_map_of_mem hr))
  refine and_congr_right fun _ => ⟨fun h => ?_, fun h => ?_⟩
  · exact h.congr fun r hr => (hrules r hr).symm
  · exact h.congr hrules

/-- A video with one size as a text and one as a number, and with a name that does not count. -/
def someVideo : Json :=
  .ofFields [("type", .text "video"), ("html", .text "<iframe></iframe>"), ("width", .integer 640),
    ("height", .text " 360 "), ("title", .null), ("duration", .null)]

/-- Its fields are built in order, so no name occurs twice, and it is a document. -/
theorem ofJson_reads_someVideo : someVideo.HasDistinctNames ∧ someVideo.IsOEmbed :=
  have hdistinct : someVideo.HasDistinctNames := Json.hasDistinctNames_ofFields _
  ⟨hdistinct, (ofJson_reads someVideo hdistinct).1.mp
    ⟨.video { common := {}, html := "<iframe></iframe>", width := 640, height := 360 }, rfl⟩⟩

end OEmbed

end LinkEmbed
