import LinkEmbed.Proofs.OEmbed.Schema

/-!
# Integers in oEmbed documents

What becomes of an integer that is given for a size or for the age of a document that is in order otherwise.

* `OEmbed.exists_ofJson_assignEntry_iff` — a document with a value put in for one field is in order if the value is
  and the other fields are.
* `OEmbed.readDimension_casts` — no cast on the way to a size cuts anything off.
* `OEmbed.integer_sizes` — sizes are never altered.
* `OEmbed.integer_ages` — ages are, above `2^53`: they are read as floating point numbers.
-/

namespace LinkEmbed

/-! ## A document in order but for one field -/

theorem OEmbedKind.name_injective {k l : OEmbedKind} (h : k.name = l.name) : k = l := by
  have hk := ofName?_name k
  rw [h, ofName?_name] at hk
  exact (Option.some.inj hk).symm

theorem OEmbedKind.nodup_names (kind : OEmbedKind) : (kind.rules.map FieldRule.name).Nodup := by
  cases kind <;> decide

/-- A rule is known by its name, since no kind has two for one. -/
theorem OEmbedKind.rule_unique {kind : OEmbedKind} {r s : FieldRule} (hr : r ∈ kind.rules) (hs : s ∈ kind.rules)
    (h : r.name = s.name) : r = s :=
  List.inj_on_of_nodup_map kind.nodup_names hr hs h

/-- The rules of a kind hold for all names but one. -/
def OEmbedKind.HoldsBut (kind : OEmbedKind) (name : String) (fields : List (String × Json)) : Prop :=
  ∀ r ∈ kind.rules, r.name ≠ name → r.Holds (fields.lookup r.name)

namespace OEmbed

section

variable {kind : OEmbedKind} {r : FieldRule} {fields : List (String × Json)} {v : Json} {e : OEmbed}

/-- A value put in for a field leaves the type of the document. -/
theorem lookup_type_assignEntry (hr : r ∈ kind.rules) :
    (assignEntry r.name v fields).lookup "type" = fields.lookup "type" := by
  rw [lookup_assignEntry, if_neg (Ne.symm (type_notMem_rules kind r hr))]

/-- A document with a value put in for one field is in order if the value is and the other fields are. -/
theorem exists_ofJson_assignEntry_iff (hr : r ∈ kind.rules) (hdistinct : (entryNames fields).Nodup)
    (htype : fields.lookup "type" = some (.text kind.name)) :
    (∃ e, ofJson (.object (assignEntry r.name v fields)) = .ok e) ↔
      r.Holds (some v) ∧ kind.HoldsBut r.name fields := by
  have hnodup : (entryNames (assignEntry r.name v fields)).Nodup := nodup_assignEntry hdistinct
  rw [exists_ofJson_iff (v := .object _) hnodup]
  constructor
  · rintro ⟨_, k, ⟨⟩, hk, hrules⟩
    -- The kind is still the one it was, since no rule is about the field that names it.
    rw [lookup_type_assignEntry hr, htype] at hk
    obtain rfl := OEmbedKind.name_injective (Json.text.inj (Option.some.inj hk))
    constructor
    · have hown := hrules r hr
      rwa [lookup_assignEntry, if_pos rfl] at hown
    · intro s hs hne
      have hother := hrules s hs
      rwa [lookup_assignEntry, if_neg hne] at hother
  · rintro ⟨hown, hothers⟩
    refine ⟨_, kind, rfl, (lookup_type_assignEntry hr).trans htype, fun s hs => ?_⟩
    rw [lookup_assignEntry]
    split
    next heq => exact OEmbedKind.rule_unique hs hr heq ▸ hown
    next hne => exact hothers s hs hne

/-- A document that was read has the kind that its `type` names, and every size that the kind has. -/
theorem lookup_sizes (hr : r ∈ kind.rules) (hsize : r.shape = .size) (hdistinct : (entryNames fields).Nodup)
    (htype : fields.lookup "type" = some (.text kind.name)) (h : ofJson (.object fields) = .ok e) :
    ∃ s, e.sizes.lookup r.name = some s ∧ Optionally IsSize (fields.lookup r.name) s := by
  obtain ⟨hkind, hread⟩ := (ofJson_eq_ok_iff (v := .object _) hdistinct).mp h
  obtain rfl := OEmbedKind.name_injective (Json.text.inj (Option.some.inj (hkind.symm.trans htype)))
  have hnames : (entryNames e.sizes).Nodup := by
    rw [entryNames_sizes]
    exact e.kind.nodup_names.sublist (List.filter_sublist.map _)
  have hmem : r.name ∈ entryNames e.sizes := by
    rw [entryNames_sizes]
    exact List.mem_map_of_mem (List.mem_filter.mpr ⟨hr, by simpa using hsize⟩)
  obtain ⟨⟨n, s⟩, hs, rfl⟩ := List.mem_map.mp hmem
  exact ⟨s, (lookup_eq_some_iff hnames).mpr hs, hread.sizes _ hs⟩

/-- A value that is not `null` has to fit. -/
theorem FieldRule.holds_iff (hv : v ≠ .null) : r.Holds (some v) ↔ r.shape.Fits v := by
  constructor
  · rintro (hfits | ⟨rfl, -⟩)
    · exact hfits
    · exact absurd rfl hv
  · exact .inl

/-- Something other than `null` gives a field a value. -/
theorem Optionally.exists_of_ne_null {α : Type} {P : Json → α → Prop} {o : Option α} (h : Optionally P (some v) o)
    (hv : v ≠ .null) : ∃ a, o = some a ∧ P v a := by
  cases h with
  | null => exact absurd rfl hv
  | value ha => exact ⟨_, rfl, ha⟩

end

/-! ## Sizes -/

section

variable {v : Json} {i : Int}

/-- An integer fits as a size if it has 32 bits. -/
theorem GivesInteger.fits_size_iff (h : GivesInteger v i) : FieldShape.size.Fits v ↔ 0 ≤ i ∧ i ≤ 2 ^ 32 - 1 := by
  rw [← exists_isSize_iff]
  simp only [h.isSize_iff]
  constructor
  · rintro ⟨_, hi, -⟩
    exact hi
  · intro hi
    exact ⟨_, hi, rfl⟩

/-- No infinity fits, and nothing that is no number. -/
theorem GivesNonFinite.not_fits_size (h : GivesNonFinite v) : ¬ FieldShape.size.Fits v := by
  rintro ⟨x, hx, hrange⟩
  exact h.not_inRange hx _ hrange

end

/-- No cast on the way to a size changes the number: it is below the largest word and has no upper half. -/
theorem readDimension_casts {v : Json} {k : Nat} (h : readDimension v = .ok k) :
    ∃ s m q, readNumber v = .ok (.finite s m q) ∧ toWord m q = Binary64.roundHalfUp m q ∧
      lowerHalf (toWord m q) = toWord m q ∧ k = toWord m q := by
  obtain ⟨x, hx, hrange, hk⟩ := readDimension_eq_ok_iff.mp h
  have hnumber := readNumber_eq_ok_iff.mpr hx
  have hfinite := hrange.1
  -- What is in range is finite, so there are digits to round.
  cases x with
  | infinite => cases hfinite
  | nan => cases hfinite
  | finite s m q =>
    have hlt := round_lt_of_inRange hrange
    have hround := Binary64.roundHalfUp_of_nonneg hrange.2.1
    have hword : toWord m q = Binary64.roundHalfUp m q := by
      rw [toWord, hround, min_eq_left]
      exact (Nat.le_pred_of_lt hlt).trans (by decide)
    refine ⟨s, m, q, hnumber, hword, ?_, ?_⟩
    · rw [hword, hround, lowerHalf_of_lt hlt]
    · rw [hword, hround, hk]

/-- An integer is read as a size exactly if it is from zero to `2^32 - 1`, and it is the size then. -/
theorem GivesInteger.readDimension_eq_ok_iff {v : Json} {i : Int} (h : GivesInteger v i) {k : Nat} :
    readDimension v = .ok k ↔ (0 ≤ i ∧ i ≤ 4294967295) ∧ (k : Int) = i := by
  rw [OEmbed.readDimension_eq_ok_iff, h.isSize_iff]
  omega

/-- **Sizes are never altered.** An integer given for a size is taken exactly if it is from zero to `2^32 - 1`, and is
the size then: by the reader of the field, and in a document whose other fields are in order. What spells an infinity
or no number is never taken. No cast changes a size that is read. -/
theorem integer_sizes {kind : OEmbedKind} {r : FieldRule} (hr : r ∈ kind.rules) (hsize : r.shape = .size)
    (fields : List (String × Json)) (hdistinct : (entryNames fields).Nodup)
    (htype : fields.lookup "type" = some (.text kind.name)) :
    (∀ v i, GivesInteger v i →
      (∀ k : Nat, readDimension v = .ok k ↔ (0 ≤ i ∧ i ≤ 4294967295) ∧ (k : Int) = i) ∧
      ((∃ e, ofJson (.object (assignEntry r.name v fields)) = .ok e) ↔
        (0 ≤ i ∧ i ≤ 4294967295) ∧ kind.HoldsBut r.name fields) ∧
      ∀ e, ofJson (.object (assignEntry r.name v fields)) = .ok e →
        ∃ k : Nat, (k : Int) = i ∧ e.sizes.lookup r.name = some (some k)) ∧
    (∀ v, GivesNonFinite v → ∀ e, ofJson (.object (assignEntry r.name v fields)) ≠ .ok e) ∧
    ∀ v k, readDimension v = .ok k →
      ∃ s m q, readNumber v = .ok (.finite s m q) ∧ toWord m q = Binary64.roundHalfUp m q ∧
        lowerHalf (toWord m q) = toWord m q ∧ k = toWord m q := by
  refine ⟨fun v i hi => ⟨fun k => hi.readDimension_eq_ok_iff, ?_, fun e he => ?_⟩, fun v hv e he => ?_,
    fun v k => readDimension_casts⟩
  · rw [exists_ofJson_assignEntry_iff hr hdistinct htype, FieldRule.holds_iff hi.ne_null, hsize, hi.fits_size_iff]
    norm_num
  · -- The field that was put in is the size that is read.
    have htype' := (lookup_type_assignEntry hr (v := v)).trans htype
    obtain ⟨s, hs, hread⟩ := lookup_sizes hr hsize (nodup_assignEntry hdistinct) htype' he
    rw [lookup_assignEntry, if_pos rfl] at hread
    obtain ⟨k, rfl, hk⟩ := hread.exists_of_ne_null hi.ne_null
    obtain ⟨hrange, rfl⟩ := hi.isSize_iff.mp hk
    exact ⟨_, Int.toNat_of_nonneg hrange.1, hs⟩
  · obtain ⟨hown, -⟩ := (exists_ofJson_assignEntry_iff hr hdistinct htype).mp ⟨e, he⟩
    have hne : v ≠ .null := by
      rintro rfl
      cases hv
    rw [FieldRule.holds_iff hne, hsize] at hown
    exact hv.not_fits_size hown

/-- The largest width, as a text with a sign and a blank before it. -/
theorem integer_sizes_photo_width :
    ∃ e, ofJson (.object [("type", .text "photo"), ("url", .text "a"), ("height", .integer 1),
        ("width", .text " +4294967295")]) = .ok e ∧
      ∃ k : Nat, (k : Int) = 4294967295 ∧ e.sizes.lookup "width" = some (some k) := by
  have hr : (⟨"width", .size, true⟩ : FieldRule) ∈ OEmbedKind.photo.rules := by decide
  have hgiven : GivesInteger (.text " +4294967295") 4294967295 :=
    @GivesInteger.text [' '] ['+', '4', '2', '9', '4', '9', '6', '7', '2', '9', '5'] [] _ rfl
      (.plus (by decide) (List.all_eq_true.mp rfl)) rfl
  let fields : List (String × Json) := [("type", .text "photo"), ("url", .text "a"), ("height", .integer 1)]
  obtain ⟨hvalues, -, -⟩ := integer_sizes hr rfl fields (by decide) rfl
  exact ⟨_, rfl, (hvalues _ _ hgiven).2.2 _ rfl⟩

/-! ## Ages -/

/-- An integer fits as an age if the floating point number nearest to it is at most `2^64`. -/
theorem GivesInteger.fits_age_iff {v : Json} {i : Int} (h : GivesInteger v i) :
    FieldShape.age.Fits v ↔ 0 ≤ i ∧ i ≤ 2 ^ 64 + 2 ^ 11 := by
  rw [← exists_isAge_iff]
  simp only [h.isAge_iff]
  constructor
  · rintro ⟨_, hi, -⟩
    exact hi
  · intro hi
    exact ⟨_, hi, rfl⟩

/-- Of the natural numbers up to the largest age, those that are floating point numbers and the largest itself are
what they are read as. -/
theorem min_nearest_eq_self_iff {n : Nat} (hn : n ≤ maxAge) :
    min (Binary64.nearest n) maxAge = n ↔ Binary64.spacing n ∣ n ∨ n = maxAge := by
  rw [← Binary64.nearest_eq_self_iff]
  constructor
  · intro h
    rcases le_total (Binary64.nearest n) maxAge with hle | hle
    · exact .inl ((min_eq_left hle).symm.trans h)
    · exact .inr (h.symm.trans (min_eq_right hle))
  · rintro (h | rfl)
    · rw [h, min_eq_left hn]
    · rw [nearest_maxAge]
      decide

/-- **Ages are read as floating point numbers.** An integer of 64 bits given for the age of a document that is in order
otherwise is read as the floating point number nearest to it, or as `2^64 - 1` where that is larger. So it is read as
it is exactly if it is a floating point number or `2^64 - 1`. Negative integers are not taken, nor those that are
nearer to a floating point number above `2^64`. -/
theorem integer_ages (kind : OEmbedKind) (fields : List (String × Json)) (hdistinct : (entryNames fields).Nodup)
    (htype : fields.lookup "type" = some (.text kind.name)) (hothers : kind.HoldsBut "cache_age" fields)
    {v : Json} {i : Int} (hv : GivesInteger v i) :
    (0 ≤ i ∧ i ≤ 18446744073709551615 →
      ∃ e, ofJson (.object (assignEntry "cache_age" v fields)) = .ok e ∧
        e.common.cacheAge = some (min (Binary64.nearest i.toNat) 18446744073709551615) ∧
        (e.common.cacheAge = some i.toNat ↔ Binary64.spacing i.toNat ∣ i.toNat ∨ i = 18446744073709551615)) ∧
    (i < 0 ∨ 2 ^ 64 + 2 ^ 11 < i → ∀ e, ofJson (.object (assignEntry "cache_age" v fields)) ≠ .ok e) := by
  have hr : (⟨"cache_age", .age, false⟩ : FieldRule) ∈ kind.rules := List.mem_append_right _ (by decide)
  have haccepted := exists_ofJson_assignEntry_iff hr hdistinct htype (v := v)
  rw [FieldRule.holds_iff hv.ne_null, hv.fits_age_iff] at haccepted
  constructor
  · rintro ⟨hlow, hhigh⟩
    -- An age of 64 bits is in range, and so the document is read; its age is the number nearest to it.
    obtain ⟨e, he⟩ := haccepted.mpr ⟨⟨hlow, by omega⟩, hothers⟩
    have hnodup : (entryNames (assignEntry "cache_age" v fields)).Nodup := nodup_assignEntry hdistinct
    obtain ⟨-, hread⟩ := (ofJson_eq_ok_iff (v := .object _) hnodup).mp he
    have hage := hread.age
    rw [Json.field?, lookup_assignEntry, if_pos rfl] at hage
    obtain ⟨k, hk, hvalue⟩ := hage.exists_of_ne_null hv.ne_null
    obtain ⟨-, rfl⟩ := hv.isAge_iff.mp hvalue
    refine ⟨e, he, hk, ?_⟩
    rw [hk, Option.some.injEq, min_nearest_eq_self_iff (by rw [maxAge]; omega), maxAge]
    omega
  · intro hi e he
    obtain ⟨hrange, -⟩ := haccepted.mp ⟨e, he⟩
    omega

/-- A day is read as it is. -/
theorem integer_ages_day :
    ∃ e, ofJson (.object [("type", .text "link"), ("cache_age", .integer 86400)]) = .ok e ∧
      e.common.cacheAge = some (min (Binary64.nearest 86400) 18446744073709551615) := by
  let fields : List (String × Json) := [("type", .text "link")]
  have hothers : OEmbedKind.link.HoldsBut "cache_age" fields := by
    intro r hr _
    have hleft : ∀ s ∈ OEmbedKind.link.rules, s.name ∉ entryNames fields ∧ s.required = false := by decide
    obtain ⟨hnone, hoptional⟩ := hleft r hr
    rw [lookup_eq_none hnone]
    exact hoptional
  obtain ⟨e, he, hage, -⟩ := (integer_ages .link fields (by decide) rfl hothers (.integer 86400)).1 (by decide)
  exact ⟨e, he, hage⟩

/-- The integer after `2^53` is not read as it is. -/
theorem integer_ages_rounded :
    ∃ e, ofJson (.object [("type", .text "link"), ("cache_age", .integer 9007199254740993)]) = .ok e ∧
      e.common.cacheAge = some 9007199254740992 ∧ e.common.cacheAge ≠ some 9007199254740993 :=
  ⟨_, rfl, rfl, by decide⟩

end OEmbed

end LinkEmbed
