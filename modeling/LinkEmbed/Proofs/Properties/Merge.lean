import LinkEmbed.Properties

/-!
# Merged properties

What setting and merging do to the value of a name and to the names in order.

* `Properties.get?_merge` — the later properties win.
* `Properties.names_merge` — names keep the place they had, and new ones come behind in their order.
* `Properties.ofList_entries` — properties are collected from their own entries.
-/

namespace LinkEmbed

namespace Properties

/-- The names in order. -/
def names (p : Properties) : List String := entryNames p.entries

/-- The name that is set gets the value, and the others keep theirs. -/
theorem get?_set (p : Properties) (name : String) (value : Scalar) (k : String) :
    (p.set name value).get? k = if k = name then some value else p.get? k :=
  lookup_assignEntry name value p.entries k

/-- A new name comes last. -/
theorem names_set (p : Properties) (name : String) (value : Scalar) :
    (p.set name value).names = if name ∈ p.names then p.names else p.names ++ [name] :=
  entryNames_assignEntry name value p.entries

/-- What is set last to first counts; what is not set stays. -/
theorem get?_setAll (p : Properties) {es : List (String × Scalar)} (h : (entryNames es).Nodup) (k : String) :
    (p.setAll es).get? k = (es.lookup k).or (p.get? k) := by
  induction es generalizing p with
  | nil => rfl
  | cons e r ih =>
    obtain ⟨name, value⟩ := e
    obtain ⟨hname, hr⟩ := List.nodup_cons.mp h
    have hset := ih (p.set name value) hr
    rw [setAll, List.foldl_cons, ← setAll, hset, get?_set, lookup_cons_eq]
    by_cases hk : k = name
    · -- The rest says nothing of a name that has been dealt with.
      subst hk
      rw [if_pos rfl, if_pos rfl, lookup_eq_none hname]
      rfl
    · rw [if_neg hk, if_neg hk]

/-- Several new names come last, in their order. -/
theorem names_setAll (p : Properties) {es : List (String × Scalar)} (h : (entryNames es).Nodup) :
    (p.setAll es).names = p.names ++ (entryNames es).filter (· ∉ p.names) := by
  induction es generalizing p with
  | nil => exact (List.append_nil _).symm
  | cons e r ih =>
    obtain ⟨name, value⟩ := e
    obtain ⟨hname, hr⟩ := List.nodup_cons.mp h
    have hset := ih (p.set name value) hr
    rw [setAll, List.foldl_cons, ← setAll, hset, names_set]
    by_cases hp : name ∈ p.names
    · simp [entryNames, hp]
    · -- The name is new, and it is none of those that follow.
      have hrest : (entryNames r).filter (· ∉ p.names ++ [name]) = (entryNames r).filter (· ∉ p.names) := by
        refine List.filter_congr fun k hk => ?_
        have hne : k ≠ name := fun heq => hname (heq ▸ hk)
        simp [hne]
      rw [if_neg hp, hrest, List.append_assoc]
      simp [entryNames, hp]

/-- The later properties win. -/
theorem get?_merge (p q : Properties) (k : String) : (p.merge q).get? k = (q.get? k).or (p.get? k) :=
  p.get?_setAll q.distinct k

/-- Names keep their place, and new ones come behind in their order. -/
theorem names_merge (p q : Properties) : (p.merge q).names = p.names ++ q.names.filter (· ∉ p.names) :=
  p.names_setAll q.distinct

/-- New names come behind with their values. -/
theorem entries_setAll (p : Properties) {es : List (String × Scalar)} (h : (entryNames (p.entries ++ es)).Nodup) :
    (p.setAll es).entries = p.entries ++ es := by
  induction es generalizing p with
  | nil => exact (List.append_nil _).symm
  | cons e r ih =>
    obtain ⟨name, value⟩ := e
    have hnew : name ∉ entryNames p.entries := by
      intro hmem
      rw [entryNames, List.map_append, List.nodup_append] at h
      exact h.2.2 name hmem name List.mem_cons_self rfl
    have hset : (p.set name value).entries = p.entries ++ [(name, value)] := assignEntry_of_notMem value hnew
    have hr := ih (p.set name value) (by rwa [hset, List.append_assoc])
    rw [setAll, List.foldl_cons, ← setAll, hr, hset, List.append_assoc]
    rfl

theorem entries_ofList {es : List (String × Scalar)} (h : (entryNames es).Nodup) : (ofList es).entries = es :=
  entries_setAll empty h

theorem ofList_entries (p : Properties) : ofList p.entries = p := ext (entries_ofList p.distinct)

theorem get?_ofList {es : List (String × Scalar)} (h : (entryNames es).Nodup) (k : String) :
    (ofList es).get? k = es.lookup k := by
  rw [get?, entries_ofList h]

theorem names_ofList {es : List (String × Scalar)} (h : (entryNames es).Nodup) : (ofList es).names = entryNames es := by
  rw [names, entries_ofList h]

/-- Names are distinct, so an entry is known by its name. -/
theorem get?_eq_some_iff {p : Properties} {k : String} {v : Scalar} : p.get? k = some v ↔ (k, v) ∈ p.entries :=
  lookup_eq_some_iff p.distinct

end Properties

end LinkEmbed
