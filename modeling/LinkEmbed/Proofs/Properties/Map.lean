import LinkEmbed.Html.Page
import LinkEmbed.Proofs.Properties.Merge
import Mathlib.Data.List.Basic

/-!
# Properties as a finite map

The ways to build properties work on a plain list of entries, and nothing in such a list keeps a name from
standing in it twice. However they follow on one another, no name does. So properties are a finite map with an order
on its names.

* `Recipe.entries_build`, `Recipe.nodup_plain` — in whatever way they are built, properties are what the way makes of
  a plain list, and no name stands in it twice.
* `isMap` — all questions are answered by the names in order and the value of each.
* `isMap_set`, `isMap_remove`, `isMap_merge` — what the operations make of these two.
* `merge_assoc`, `merge_empty`, `empty_merge`, `merge_self` — the laws of merging.
* `behave_as_map` — all of this together.
-/

namespace LinkEmbed

/-! ## Lists of entries -/

section

variable {α : Type u} {name k : String} {value : α} {es : List (String × α)}

/-- Where no name occurs twice, names in order and values are all there is. -/
theorem eq_filterMap_entryNames (h : (entryNames es).Nodup) :
    es = (entryNames es).filterMap fun k => (es.lookup k).map (k, ·) := by
  induction es with
  | nil => rfl
  | cons e r ih =>
    obtain ⟨n, v⟩ := e
    obtain ⟨hn, hr⟩ := List.nodup_cons.mp h
    -- The first name is not that of a later entry, so it does not hide one.
    have hrest : ∀ k ∈ entryNames r, ((n, v) :: r).lookup k = r.lookup k := by
      intro k hk
      have hne : k ≠ n := fun heq => hn (heq ▸ hk)
      rw [lookup_cons_eq, if_neg hne]
    have hfirst : ((n, v) :: r).lookup n = some v := by rw [lookup_cons_eq, if_pos rfl]
    have htail : (entryNames r).filterMap (fun k => (((n, v) :: r).lookup k).map (k, ·)) = r := by
      rw [List.filterMap_congr fun k hk => by rw [hrest k hk]]
      exact (ih hr).symm
    rw [entryNames, List.map_cons, List.filterMap_cons, hfirst]
    exact congrArg _ htail.symm

/-- A name that is there gets its value in its place, and all other entries stay. -/
theorem assignEntry_of_mem (hname : name ∈ entryNames es) (h : (entryNames es).Nodup) :
    assignEntry name value es = es.map fun e => if e.1 = name then (name, value) else e := by
  induction es with
  | nil => cases hname
  | cons e r ih =>
    obtain ⟨n, v⟩ := e
    obtain ⟨hn, hr⟩ := List.nodup_cons.mp h
    rw [assignEntry, List.map_cons]
    by_cases hne : n = name
    · subst hne
      -- No later entry has the name, so mapping over them changes nothing.
      have hrest : ∀ e ∈ r, (if e.1 = n then (n, value) else e) = e := by
        intro e he
        refine if_neg ?_
        rintro rfl
        exact hn (List.mem_map.mpr ⟨e, he, rfl⟩)
      rw [if_pos rfl, if_pos rfl, List.map_congr_left hrest, List.map_id']
    · rw [if_neg hne, if_neg hne, ih (List.mem_of_ne_of_mem (Ne.symm hne) hname) hr]

/-- Taking a name out of entries takes the first entry of that name out. -/
theorem eraseEntry_eq_eraseP (name : String) (es : List (String × α)) :
    eraseEntry name es = es.eraseP (·.1 == name) := by
  induction es with
  | nil => rfl
  | cons e r ih =>
    obtain ⟨n, v⟩ := e
    rw [eraseEntry, ih]
    by_cases h : n = name <;> simp [h]

/-- The names that are left, in their order. -/
theorem entryNames_eraseEntry (name : String) (es : List (String × α)) :
    entryNames (eraseEntry name es) = (entryNames es).erase name := by
  induction es with
  | nil => rfl
  | cons e r ih =>
    obtain ⟨n, v⟩ := e
    rw [entryNames] at ih ⊢
    by_cases h : n = name <;> simp [eraseEntry, entryNames, h, ih]

/-- With no name twice, the name has no value afterwards, and the others keep theirs. -/
theorem lookup_eraseEntry (h : (entryNames es).Nodup) (name k : String) :
    (eraseEntry name es).lookup k = if k = name then none else es.lookup k := by
  induction es with
  | nil => simp [eraseEntry]
  | cons e r ih =>
    obtain ⟨n, v⟩ := e
    obtain ⟨hn, hr⟩ := List.nodup_cons.mp h
    rw [eraseEntry]
    by_cases hne : n = name
    · subst hne
      rw [if_pos rfl, lookup_cons_eq]
      by_cases hk : k = n
      · rw [if_pos hk, hk, lookup_eq_none hn]
      · rw [if_neg hk, if_neg hk]
    · rw [if_neg hne, lookup_cons_eq, lookup_cons_eq, ih hr]
      by_cases hk : k = n
      · rw [if_pos hk, if_neg fun heq => hne (hk ▸ heq), if_pos hk]
      · rw [if_neg hk, if_neg hk]

/-- The entry that stands at the first place of a name has its value. -/
theorem getElem?_findIdx? (name : String) (es : List (String × α)) :
    ((es.findIdx? (·.1 == name)).bind fun i => es[i]?.map Prod.snd) = es.lookup name := by
  induction es with
  | nil => rfl
  | cons e r ih =>
    obtain ⟨n, v⟩ := e
    rw [lookup_cons_eq, List.findIdx?_cons]
    by_cases h : name = n
    · simp [h]
    · rw [if_neg h, ← ih]
      have hne : (n == name) = false := beq_eq_false_iff_ne.mpr (Ne.symm h)
      simp only [hne, Bool.false_eq_true, if_false]
      cases r.findIdx? (·.1 == name) <;> rfl

end

namespace Properties

/-! ## Ways to build properties -/

/-- A way to build properties. -/
inductive Recipe where
  | nothing
  | setting (r : Recipe) (name : String) (value : Scalar)
  | removing (r : Recipe) (name : String)
  | merging (r q : Recipe)
  | collecting (es : List (String × Scalar))
  /-- The attributes of an element in a page. Some may have the same name, with different labels before it. -/
  | attributes (vocabulary : Html.Vocabulary) (attributes : List Html.Attribute)

namespace Recipe

/-- Attributes in order, as entries. -/
def attributeEntries (v : Html.Vocabulary) (attributes : List Html.Attribute) : List (String × Scalar) :=
  (Html.sortAttributes v attributes).map fun a => (a.name, .text a.value)

/-- What is built. -/
def build : Recipe → Properties
  | nothing => .empty
  | setting r name value => r.build.set name value
  | removing r name => (r.build.remove name).2
  | merging r q => r.build.merge q.build
  | collecting es => .ofList es
  | attributes v as => .ofList (attributeEntries v as)

/-- Each of a list of entries set in a plain list, first to last. -/
def assignAll (es fs : List (String × Scalar)) : List (String × Scalar) :=
  fs.foldl (fun es e => assignEntry e.1 e.2 es) es

/-- What is built, as a plain list of entries. -/
def plain : Recipe → List (String × Scalar)
  | nothing => []
  | setting r name value => assignEntry name value r.plain
  | removing r name => r.plain.eraseP (·.1 == name)
  | merging r q => assignAll r.plain q.plain
  | collecting es => assignAll [] es
  | attributes v as => assignAll [] (attributeEntries v as)

end Recipe

/-- Setting several entries does to the entries what it does to a plain list. -/
theorem entries_setAll_eq (p : Properties) (es : List (String × Scalar)) :
    (p.setAll es).entries = Recipe.assignAll p.entries es := by
  induction es generalizing p with
  | nil => rfl
  | cons e r ih => exact ih (p.set e.1 e.2)

/-- Taking a name out by its place is taking its first entry out. -/
theorem remove_eq (p : Properties) (name : String) : p.remove name = (p.get? name, p.erase name) := by
  have hvalue := getElem?_findIdx? name p.entries
  have hentries : (p.erase name).entries = p.entries.eraseP (·.1 == name) :=
    eraseEntry_eq_eraseP name p.entries
  rw [List.eraseP_eq_eraseIdx] at hentries
  unfold remove
  cases hplace : p.entries.findIdx? (·.1 == name) with
  | none =>
    rw [hplace] at hvalue hentries
    exact Prod.ext hvalue (ext hentries.symm)
  | some i =>
    rw [hplace] at hvalue hentries
    exact Prod.ext hvalue (ext hentries.symm)

namespace Recipe

/-- The entries of what is built are the plain list. -/
theorem entries_build (r : Recipe) : r.build.entries = r.plain := by
  induction r with
  | nothing => rfl
  | setting r name value ih => rw [build, plain, entries_set, ih]
  | removing r name ih =>
    rw [build, plain, remove_eq, ← ih]
    exact eraseEntry_eq_eraseP name r.build.entries
  | merging r q ihr ihq => rw [build, plain, merge, entries_setAll_eq, ihr, ihq]
  | collecting es => exact entries_setAll_eq empty es
  | attributes v as => exact entries_setAll_eq empty (attributeEntries v as)

/-- No name stands twice in what is built, in whatever way. -/
theorem nodup_plain (r : Recipe) : (entryNames r.plain).Nodup := r.entries_build ▸ r.build.distinct

example : (attributes .svg [⟨some "xlink", "href", "#a"⟩, ⟨none, "href", "#b"⟩]).plain = [("href", .text "#a")] := by
  decide

theorem build_collecting (p : Properties) : (collecting p.entries).build = p := ofList_entries p

/-- The way in which the properties of an element in a page are built. -/
def ofKind? : Html.NodeKind → Option Recipe
  | .element name as => some (.attributes name.vocabulary as)
  | _ => none

/-- The properties of an element in a page are built from its attributes. -/
theorem properties_markup? (t : Html.Tree) (depth i : Nat) :
    ((t.markup? (depth + 1) i).bind Markup.element?).map Element.properties =
      (ofKind? (t.node i).kind).map build := by
  rw [Html.Tree.markup?]
  cases (t.node i).kind <;> rfl

end Recipe

/-! ## Names in order and their values -/

/-- All questions to properties are answered by one finite map: by its names in order, and by the value that a
name has. -/
structure IsMap (p : Properties) (names : List String) (value : String → Option Scalar) : Prop where
  distinct : names.Nodup
  domain : ∀ k, k ∈ names ↔ (value k).isSome
  entries : p.entries = names.filterMap fun k => (value k).map (k, ·)
  get? : ∀ k, p.get? k = value k
  contains : ∀ k, p.contains k = (value k).isSome
  size : p.size = names.length
  isEmpty : p.isEmpty = names.isEmpty

section

variable {p q r : Properties} {names : List String} {value : String → Option Scalar}

theorem mem_names_iff {k : String} : k ∈ p.names ↔ (p.get? k).isSome := lookup_isSome_iff.symm

theorem contains_eq (p : Properties) (k : String) : p.contains k = (p.get? k).isSome := by
  rw [Bool.eq_iff_iff, ← mem_names_iff, contains, names, entryNames]
  simp

/-- Properties are the map of their own names and values. -/
theorem isMap (p : Properties) : p.IsMap p.names p.get? where
  distinct := p.distinct
  domain _ := mem_names_iff
  entries := eq_filterMap_entryNames p.distinct
  get? _ := rfl
  contains := p.contains_eq
  size := (List.length_map Prod.fst).symm
  isEmpty := List.isEmpty_map.symm

/-- They are any map with the same names and values. -/
theorem isMap_of_eq (hnames : p.names = names) (hvalue : ∀ k, p.get? k = value k) : p.IsMap names value := by
  obtain rfl := hnames
  obtain rfl : p.get? = value := funext hvalue
  exact p.isMap

/-- Properties are known by their names in order and by the values. -/
theorem eq_of_names_of_get? (hnames : p.names = q.names) (hvalue : ∀ k, p.get? k = q.get? k) : p = q := by
  have hq : p.IsMap q.names q.get? := isMap_of_eq hnames hvalue
  exact ext (hq.entries.trans q.isMap.entries.symm)

/-! ## What the operations make of the map -/

/-- A name that is set gets the value, and comes last if it is new. -/
theorem isMap_set (p : Properties) (k : String) (v : Scalar) :
    (p.set k v).IsMap (if k ∈ p.names then p.names else p.names ++ [k]) (Function.update p.get? k (some v)) := by
  refine isMap_of_eq (p.names_set k v) fun j => ?_
  rw [get?_set, Function.update_apply]

/-- All other entries stay where they are. -/
theorem entries_set_eq (p : Properties) (k : String) (v : Scalar) :
    (p.set k v).entries =
      if k ∈ p.names then p.entries.map fun e => if e.1 = k then (k, v) else e else p.entries ++ [(k, v)] := by
  split
  next hmem => exact assignEntry_of_mem hmem p.distinct
  next hnew => exact assignEntry_of_notMem v hnew

/-- A name that is taken out has no value, and the others keep their order. -/
theorem isMap_remove (p : Properties) (k : String) :
    (p.remove k).2.IsMap (p.names.erase k) (Function.update p.get? k none) := by
  rw [remove_eq]
  refine isMap_of_eq (entryNames_eraseEntry k p.entries) fun j => ?_
  rw [Function.update_apply]
  exact lookup_eraseEntry p.distinct k j

/-- In a merge the later properties win, and their new names come behind. -/
theorem isMap_merge (p q : Properties) :
    (p.merge q).IsMap (p.names ++ q.names.filter (· ∉ p.names)) fun k => (q.get? k).or (p.get? k) :=
  isMap_of_eq (p.names_merge q) (p.get?_merge q)

/-! ## Merging -/

/-- It does not matter which two of three are merged first. -/
theorem merge_assoc (p q r : Properties) : (p.merge q).merge r = p.merge (q.merge r) := by
  refine eq_of_names_of_get? ?_ fun k => ?_
  · -- The names of the last that are new come behind in both, whichever of the others is looked at first.
    have hlast : r.names.filter (· ∉ p.names ++ q.names.filter (· ∉ p.names)) =
        (r.names.filter (· ∉ q.names)).filter (· ∉ p.names) := by
      rw [List.filter_filter]
      refine List.filter_congr fun k _ => ?_
      by_cases hp : k ∈ p.names <;> simp [hp]
    rw [names_merge, names_merge, names_merge, names_merge, hlast, List.append_assoc, List.filter_append]
  · rw [get?_merge, get?_merge, get?_merge, get?_merge, Option.or_assoc]

theorem merge_empty (p : Properties) : p.merge empty = p := rfl

theorem empty_merge (p : Properties) : empty.merge p = p := ofList_entries p

/-- Properties merged with themselves stay as they are. -/
theorem merge_self (p : Properties) : p.merge p = p := by
  refine eq_of_names_of_get? ?_ fun k => ?_
  · have hnone : p.names.filter (· ∉ p.names) = [] := List.filter_eq_nil_iff.mpr (by simp)
    rw [names_merge, hnone, List.append_nil]
  · rw [get?_merge, Option.or_self]

end

/-- **Properties are a finite map with an order on its names.** In whatever way they are built, they are what the
way makes of a plain list of entries, no name stands in it twice, and all properties can be built. So all questions
to them are answered by their names in order and the values of these. Setting a name gives it the value in its
place or at the end, with all other entries as they are; taking it out tells its value and leaves the other names;
in a merge the later properties win, and their new names come behind in their order. Merging is associative, has
no properties as its identity on both sides, and makes no difference to properties merged with themselves. -/
theorem behave_as_map :
    (∀ r : Recipe, r.build.entries = r.plain ∧ (entryNames r.plain).Nodup) ∧
      (∀ p : Properties, ∃ r : Recipe, r.build = p) ∧
      (∀ (t : Html.Tree) (depth i : Nat),
        ((t.markup? (depth + 1) i).bind Markup.element?).map Element.properties =
          (Recipe.ofKind? (t.node i).kind).map Recipe.build) ∧
      (∀ p : Properties, p.IsMap p.names p.get? ∧
        (∀ k v, (p.set k v).IsMap (if k ∈ p.names then p.names else p.names ++ [k])
            (Function.update p.get? k (some v)) ∧
          (p.set k v).entries =
            if k ∈ p.names then p.entries.map fun e => if e.1 = k then (k, v) else e else p.entries ++ [(k, v)]) ∧
        ∀ k, (p.remove k).1 = p.get? k ∧
          (p.remove k).2.IsMap (p.names.erase k) (Function.update p.get? k none)) ∧
      (∀ p q : Properties,
        (p.merge q).IsMap (p.names ++ q.names.filter (· ∉ p.names)) fun k => (q.get? k).or (p.get? k)) ∧
      (∀ p q r : Properties, (p.merge q).merge r = p.merge (q.merge r)) ∧
      ∀ p : Properties, p.merge empty = p ∧ empty.merge p = p ∧ p.merge p = p := by
  refine ⟨fun r => ⟨r.entries_build, r.nodup_plain⟩, fun p => ⟨_, Recipe.build_collecting p⟩,
    Recipe.properties_markup?, fun p => ⟨p.isMap, fun k v => ⟨p.isMap_set k v, p.entries_set_eq k v⟩, fun k => ?_⟩,
    isMap_merge, merge_assoc, fun p => ⟨p.merge_empty, p.empty_merge, p.merge_self⟩⟩
  exact ⟨congrArg Prod.fst (p.remove_eq k), p.isMap_remove k⟩

end Properties

end LinkEmbed
