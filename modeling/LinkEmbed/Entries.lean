/-!
# Lists of named values

Lists of names with values in which a name is given a value in its place, or at the end if it is new. When
no name occurs twice this stays so (`nodup_assignEntry`, `entryNames_eraseEntry_sublist`), and the value that was
given is found (`lookup_assignEntry`).
-/

namespace LinkEmbed

variable {α : Type u}

/-- The names of a list of entries, in order. -/
def entryNames (es : List (String × α)) : List String :=
  es.map Prod.fst

/-- Give `name` a value in a list of entries: in its place if it is there, at the end otherwise. -/
def assignEntry (name : String) (value : α) : List (String × α) → List (String × α)
  | [] => [(name, value)]
  | (n, v) :: r => if n = name then (n, value) :: r else (n, v) :: assignEntry name value r

/-- Take the entry of `name` out of a list of entries. -/
def eraseEntry (name : String) : List (String × α) → List (String × α)
  | [] => []
  | (n, v) :: r => if n = name then r else (n, v) :: eraseEntry name r

theorem entryNames_assignEntry (name : String) (value : α) (es : List (String × α)) :
    entryNames (assignEntry name value es) =
      if name ∈ entryNames es then entryNames es else entryNames es ++ [name] := by
  induction es with
  | nil => simp [assignEntry, entryNames]
  | cons e r ih =>
    obtain ⟨n, v⟩ := e
    by_cases h : n = name
    · simp [assignEntry, entryNames, h]
    · have hne : ¬ name = n := fun e => h e.symm
      simp only [entryNames] at ih
      by_cases hr : name ∈ List.map Prod.fst r <;> simp_all [assignEntry, entryNames]

theorem assignEntry_of_notMem {name : String} (value : α) {es : List (String × α)} (h : name ∉ entryNames es) :
    assignEntry name value es = es ++ [(name, value)] := by
  induction es with
  | nil => rfl
  | cons e r ih =>
    obtain ⟨n, v⟩ := e
    obtain ⟨hn, hr⟩ := not_or.mp (mt List.mem_cons.mpr h)
    rw [assignEntry, if_neg (Ne.symm hn), ih hr]
    rfl

theorem nodup_assignEntry {name : String} {value : α} {es : List (String × α)}
    (h : (entryNames es).Nodup) : (entryNames (assignEntry name value es)).Nodup := by
  rw [entryNames_assignEntry]
  split
  · exact h
  · rename_i hn
    rw [List.nodup_append]
    refine ⟨h, by simp, ?_⟩
    intro a ha b hb hab
    rw [List.mem_singleton] at hb
    exact hn (hb ▸ hab ▸ ha)

theorem entryNames_eraseEntry_sublist (name : String) (es : List (String × α)) :
    (entryNames (eraseEntry name es)).Sublist (entryNames es) := by
  induction es with
  | nil => exact List.Sublist.refl _
  | cons e r ih =>
    obtain ⟨n, v⟩ := e
    by_cases h : n = name
    · simp [eraseEntry, entryNames, h]
    · simpa [eraseEntry, entryNames, h] using ih

theorem lookup_cons_eq (n name : String) (value : α) (es : List (String × α)) :
    ((name, value) :: es).lookup n = if n = name then some value else es.lookup n := by
  by_cases h : n = name
  · simp [h]
  · have hne : (n == name) = false := beq_eq_false_iff_ne.mpr h
    rw [List.lookup_cons, hne, if_neg h]

theorem lookup_assignEntry (name : String) (value : α) (es : List (String × α)) (n : String) :
    (assignEntry name value es).lookup n = if n = name then some value else es.lookup n := by
  induction es with
  | nil => rw [assignEntry, lookup_cons_eq]
  | cons e r ih =>
    obtain ⟨k, v⟩ := e
    rw [assignEntry]
    by_cases hk : k = name
    · -- The entry is there already and gets the new value.
      subst hk
      rw [if_pos rfl, lookup_cons_eq, lookup_cons_eq]
      by_cases hn : n = k <;> simp [hn]
    · rw [if_neg hk, lookup_cons_eq, lookup_cons_eq, ih]
      by_cases hn : n = name
      · simp [hn, Ne.symm hk]
      · simp [hn]

theorem lookup_eq_none {name : String} {es : List (String × α)} (h : name ∉ entryNames es) :
    es.lookup name = none := by
  induction es with
  | nil => rfl
  | cons e r ih =>
    obtain ⟨n, v⟩ := e
    obtain ⟨hn, hr⟩ := not_or.mp (mt List.mem_cons.mpr h)
    rw [lookup_cons_eq, if_neg hn, ih hr]

theorem lookup_isSome_iff {k : String} {es : List (String × α)} : (es.lookup k).isSome ↔ k ∈ entryNames es := by
  induction es with
  | nil => simp [entryNames]
  | cons e r ih =>
    obtain ⟨n, v⟩ := e
    rw [lookup_cons_eq]
    by_cases hk : k = n
    · simp [hk, entryNames]
    · rw [if_neg hk, ih]
      simp [entryNames, hk]

/-- Where no name occurs twice, the value that is found for a name is the only one. -/
theorem lookup_eq_some_iff {es : List (String × α)} (h : (entryNames es).Nodup) {name : String} {value : α} :
    es.lookup name = some value ↔ (name, value) ∈ es := by
  induction es with
  | nil => simp
  | cons e r ih =>
    obtain ⟨n, v⟩ := e
    obtain ⟨hn, hr⟩ := List.nodup_cons.mp h
    rw [lookup_cons_eq, List.mem_cons, Prod.mk.injEq]
    by_cases hname : name = n
    · subst hname
      have hmem : (name, value) ∉ r := fun hin => hn (List.mem_map.mpr ⟨_, hin, rfl⟩)
      simp [hmem, eq_comm]
    · simp [hname, ih hr]

theorem lookup_filter_ne {n name : String} (h : n ≠ name) (es : List (String × α)) :
    (es.filter fun e => e.1 != name).lookup n = es.lookup n := by
  induction es with
  | nil => rfl
  | cons e r ih =>
    obtain ⟨k, v⟩ := e
    by_cases hk : k = name
    · subst hk
      rw [List.filter_cons, if_neg (by simp), ih, lookup_cons_eq, if_neg h]
    · rw [List.filter_cons, if_pos (by simpa using hk), lookup_cons_eq, lookup_cons_eq, ih]

theorem nodup_filter {es : List (String × α)} (h : (entryNames es).Nodup) (p : String × α → Bool) :
    (entryNames (es.filter p)).Nodup :=
  h.sublist (List.filter_sublist.map Prod.fst)

end LinkEmbed
