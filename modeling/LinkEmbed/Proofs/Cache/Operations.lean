import LinkEmbed.Proofs.Session.Cache
import Mathlib.Data.Finmap

/-!
# Caches as finite maps

Whatever is done with a cache that was empty at first, all that can be seen of it is what would be seen of a finite
map from the texts of URLs to entries. The map is the specification, and the cache refines it step by step.

* `CacheOperation.perform_eq` — one operation does to the cache what it does to the map.
* `CacheOperation.run_eq` — so does any sequence of operations.
* `CacheOperation.perform_getOrFetch` — the three ways to ask through a cache, with the number of fetches in each.
* `CacheOperation.lookup_leftBy`, `CacheOperation.size_leftBy` — what the cache knows, and how much, is what was
  stored since it was cleared last.
* `CacheOperation.get?_run_of_spares` — what is known stays known until it is replaced or the cache is cleared.
* `CacheOperation.run_as_finite_map` — all of it together.
-/

namespace LinkEmbed

/-- What can be done with a cache. The fetches of a sequence of operations share a state, by which they answer. -/
inductive CacheOperation (α σ : Type) where
  | get (u : Url)
  | contains (u : Url)
  | size
  | isEmpty
  | insert (u : Url) (e : CacheEntry α)
  | clear
  | getOrFetch (u : Url) (fetch : σ → Outcome (Option α) × σ)

/-- What can be seen of an operation. -/
inductive CacheAnswer (α : Type) where
  | nothing
  | entry (e : Option (CacheEntry α))
  | truth (b : Bool)
  | number (n : Nat)
  /-- What came of it, and how often the fetch was run. -/
  | fetched (x : Outcome (CacheEntry α)) (runs : Nat)

/-- A finite map from the texts of URLs to entries. -/
abbrev CacheMap (α : Type) := Finmap fun _ : String => CacheEntry α

variable {α σ : Type}

namespace CacheOperation

/-- A fetch whose runs are counted. -/
def counted (fetch : σ → Outcome (Option α) × σ) (s : Nat × σ) : Outcome (Option α) × Nat × σ :=
  ((fetch s.2).1, s.1 + 1, (fetch s.2).2)

/-- Carry an operation out. -/
def perform : CacheOperation α σ → Cache α → σ → CacheAnswer α × Cache α × σ
  | .get u, c, s => (.entry (c.get? u), c, s)
  | .contains u, c, s => (.truth (c.contains u), c, s)
  | .size, c, s => (.number c.size, c, s)
  | .isEmpty, c, s => (.truth c.isEmpty, c, s)
  | .insert u e, c, s => (.nothing, c.insert u e, s)
  | .clear, _, s => (.nothing, .empty, s)
  | .getOrFetch u fetch, c, s =>
    let (x, c, runs, s) := c.getOrFetch u (counted fetch) (0, s)
    (.fetched x runs, c, s)

/-- What a fetch leaves in a map. -/
def keep (m : CacheMap α) (u : Url) : Outcome (Option α) → CacheMap α
  | .value a => m.insert u.text (.ofOption a)
  | _ => m

/-- Carry an operation out on a map. -/
def performOnMap : CacheOperation α σ → CacheMap α → σ → CacheAnswer α × CacheMap α × σ
  | .get u, m, s => (.entry (m.lookup u.text), m, s)
  | .contains u, m, s => (.truth (decide (u.text ∈ m)), m, s)
  | .size, m, s => (.number m.keys.card, m, s)
  | .isEmpty, m, s => (.truth (decide (m.keys = ∅)), m, s)
  | .insert u e, m, s => (.nothing, m.insert u.text e, s)
  | .clear, _, s => (.nothing, ∅, s)
  | .getOrFetch u fetch, m, s =>
    match m.lookup u.text with
    | some e => (.fetched (.value e) 0, m, s)
    | none => (.fetched ((fetch s).1.map .ofOption) 1, keep m u (fetch s).1, (fetch s).2)

/-- Carry operations out one after another, each as `step` does: what is seen of each, and what is left. -/
def runWith {κ : Type} (step : CacheOperation α σ → κ → σ → CacheAnswer α × κ × σ) :
    List (CacheOperation α σ) → κ → σ → List (CacheAnswer α) × κ × σ
  | [], c, s => ([], c, s)
  | op :: ops, c, s =>
    let first := step op c s
    let rest := runWith step ops first.2.1 first.2.2
    (first.1 :: rest.1, rest.2)

/-- Carry operations out on a cache. -/
def run (ops : List (CacheOperation α σ)) (c : Cache α) (s : σ) : List (CacheAnswer α) × Cache α × σ :=
  runWith perform ops c s

/-- Carry operations out on a map. -/
def runOnMap (ops : List (CacheOperation α σ)) (m : CacheMap α) (s : σ) :
    List (CacheAnswer α) × CacheMap α × σ :=
  runWith performOnMap ops m s

end CacheOperation

/-! ## A cache as a map -/

namespace Cache

/-- What a cache knows, as a finite map. -/
def toMap (c : Cache α) : CacheMap α := (c.entries.map fun e => (⟨e.1, e.2⟩ : (_ : String) × CacheEntry α)).toFinmap

variable {c : Cache α} {u : Url}

/-- The map knows of a text what the first entry under it says, as the list of entries does. -/
theorem lookup_toMap (c : Cache α) (k : String) : c.toMap.lookup k = c.entries.lookup k := by
  rw [toMap, Finmap.dlookup_list_toFinmap]
  induction c.entries with
  | nil => rfl
  | cons e r ih =>
    obtain ⟨n, v⟩ := e
    rw [lookup_cons_eq, List.map_cons]
    by_cases hk : k = n
    · subst hk
      rw [List.dlookup_cons_eq, if_pos rfl]
    · rw [List.dlookup_cons_ne _ _ hk, if_neg hk, ih]

theorem lookup_toMap_text (c : Cache α) (u : Url) : c.toMap.lookup u.text = c.get? u := c.lookup_toMap u.text

/-- The texts that the map knows of are the names of the entries. -/
theorem keys_toMap (c : Cache α) : c.toMap.keys = (entryNames c.entries).toFinset := by
  ext k
  rw [Finmap.mem_keys, ← Finmap.lookup_isSome, lookup_toMap, lookup_isSome_iff, List.mem_toFinset]

/-- No text stands in a cache twice, so its size is the number of texts. -/
theorem size_eq_card (c : Cache α) : c.size = c.toMap.keys.card := by
  rw [keys_toMap, List.toFinset_card_of_nodup c.distinct, entryNames, List.length_map]
  rfl

theorem toMap_empty : (empty : Cache α).toMap = ∅ := rfl

/-- Storing in the cache is storing in the map. -/
theorem toMap_insert (c : Cache α) (u : Url) (e : CacheEntry α) :
    (c.insert u e).toMap = c.toMap.insert u.text e := by
  -- Maps are equal if they find the same, and both find by text.
  refine Finmap.ext_lookup fun k => ?_
  rw [lookup_toMap, insert, lookup_assignEntry]
  by_cases hk : k = u.text
  · subst hk
    rw [if_pos rfl, Finmap.lookup_insert]
  · rw [if_neg hk, Finmap.lookup_insert_of_ne _ hk, lookup_toMap]

end Cache

namespace CacheOperation

variable {c : Cache α} {u : Url} {s : σ}

/-! ## One operation -/

/-- A fetch is run at most once: not at all if something is known, and once if nothing is. -/
theorem perform_getOrFetch (fetch : σ → Outcome (Option α) × σ) (c : Cache α) (s : σ) :
    (∃ e, c.get? u = some e ∧ (getOrFetch u fetch).perform c s = (.fetched (.value e) 0, c, s)) ∨
      (c.get? u = none ∧ ∃ a, (fetch s).1 = .value a ∧ (getOrFetch u fetch).perform c s =
        (.fetched (.value (.ofOption a)) 1, c.insert u (.ofOption a), (fetch s).2)) ∨
      (c.get? u = none ∧ (∀ a, (fetch s).1 ≠ .value a) ∧ (getOrFetch u fetch).perform c s =
        (.fetched ((fetch s).1.map .ofOption) 1, c, (fetch s).2)) := by
  have hperform : (getOrFetch u fetch).perform c s =
      (.fetched (c.getOrFetch u (counted fetch) (0, s)).1 (c.getOrFetch u (counted fetch) (0, s)).2.2.1,
        (c.getOrFetch u (counted fetch) (0, s)).2.1, (c.getOrFetch u (counted fetch) (0, s)).2.2.2) := rfl
  rw [hperform]
  cases hknown : c.get? u with
  | some e =>
    refine Or.inl ⟨e, rfl, ?_⟩
    rw [Cache.getOrFetch_known (counted fetch) hknown]
  | none =>
    refine Or.inr ?_
    by_cases hanswer : ∃ a, (fetch s).1 = .value a
    · obtain ⟨a, ha⟩ := hanswer
      refine Or.inl ⟨rfl, a, ha, ?_⟩
      rw [Cache.getOrFetch_answered (counted fetch) (s := (0, s)) hknown ha]
      rfl
    · -- A failure is counted as a run like any other, but leaves the cache as it was.
      have hnone : ∀ a, (fetch s).1 ≠ .value a := fun a ha => hanswer ⟨a, ha⟩
      refine Or.inr ⟨rfl, hnone, ?_⟩
      rw [Cache.getOrFetch_unanswered (counted fetch) (s := (0, s)) hknown hnone]
      rfl

/-- A fetch that fails leaves nothing. -/
theorem keep_of_failed {m : CacheMap α} {x : Outcome (Option α)} (h : ∀ a, x ≠ .value a) : keep m u x = m := by
  cases x with
  | value a => exact absurd rfl (h a)
  | failed e => rfl
  | panicked message => rfl

/-- An operation does to a cache what it does to the map that the cache is. -/
theorem perform_eq (op : CacheOperation α σ) (c : Cache α) (s : σ) :
    op.performOnMap c.toMap s =
      ((op.perform c s).1, (op.perform c s).2.1.toMap, (op.perform c s).2.2) := by
  cases op with
  | get u => rw [performOnMap, Cache.lookup_toMap_text]; rfl
  | contains u =>
    have hmem : decide (u.text ∈ c.toMap) = c.contains u := by
      rw [Bool.eq_iff_iff, decide_eq_true_iff, ← Finmap.lookup_isSome, Cache.lookup_toMap_text, Cache.contains]
    rw [performOnMap, hmem]
    rfl
  | size => rw [performOnMap, ← Cache.size_eq_card]; rfl
  | isEmpty =>
    have hempty : decide (c.toMap.keys = ∅) = c.isEmpty := by
      rw [Bool.eq_iff_iff, decide_eq_true_iff, ← Finset.card_eq_zero, ← Cache.size_eq_card, Cache.size,
        Cache.isEmpty, List.length_eq_zero_iff, List.isEmpty_iff]
    rw [performOnMap, hempty]
    rfl
  | insert u e => rw [performOnMap, ← Cache.toMap_insert]; rfl
  | clear => rfl
  | getOrFetch u fetch =>
    rw [performOnMap, Cache.lookup_toMap_text]
    -- Either the entry is known, or the fetch runs and what it gives is stored if it is a value.
    rcases perform_getOrFetch (u := u) fetch c s with ⟨e, hknown, h⟩ | ⟨hunknown, a, ha, h⟩ | ⟨hunknown, hfails, h⟩
    · rw [h, hknown]
    · rw [h, hunknown, ha, Cache.toMap_insert]
      rfl
    · rw [h, hunknown, keep_of_failed hfails]

/-! ## Sequences of operations -/

/-- Whatever is done with a cache, what can be seen is what can be seen of the map that it is. -/
theorem run_eq (ops : List (CacheOperation α σ)) (c : Cache α) (s : σ) :
    runOnMap ops c.toMap s = ((run ops c s).1, (run ops c s).2.1.toMap, (run ops c s).2.2) := by
  induction ops generalizing c s with
  | nil => rfl
  | cons op ops ih =>
    have hrest := ih (op.perform c s).2.1 (op.perform c s).2.2
    -- The first operation on both sides, then the rest from what it left.
    unfold runOnMap at hrest ⊢
    rw [runWith, op.perform_eq c s, hrest]
    rfl

/-- What is left of an empty cache by a sequence of operations. -/
def leftBy (ops : List (CacheOperation α σ)) (s : σ) : Cache α := (run ops .empty s).2.1

/-- The state that the fetches of a sequence of operations leave. -/
def stateAfter (ops : List (CacheOperation α σ)) (s : σ) : σ := (run ops .empty s).2.2

/-! ## What was stored -/

/-- What an operation stored, as far as can be seen, before what had been stored since the last clearing. -/
def note (stored : List (String × CacheEntry α)) : CacheOperation α σ × CacheAnswer α → List (String × CacheEntry α)
  | (.insert u e, _) => (u.text, e) :: stored
  | (.clear, _) => []
  | (.getOrFetch u _, .fetched (.value e) 1) => (u.text, e) :: stored
  | _ => stored

/-- What a sequence of operations stored since the last clearing, the latest first. -/
def stored (ops : List (CacheOperation α σ)) (s : σ) : List (String × CacheEntry α) :=
  (ops.zip (run ops .empty s).1).foldl note []

/-- An operation keeps what the entries of a cache have in common with the list of what was stored, the latest first.
-/
theorem lookup_perform (op : CacheOperation α σ) {l : List (String × CacheEntry α)}
    (h : ∀ k, c.entries.lookup k = l.lookup k) (k : String) :
    (op.perform c s).2.1.entries.lookup k = (note l (op, (op.perform c s).1)).lookup k := by
  -- Only storing something changes what is found, and it puts the new entry first.
  have hinsert : ∀ (u : Url) (e : CacheEntry α),
      (c.insert u e).entries.lookup k = ((u.text, e) :: l).lookup k := by
    intro u e
    rw [Cache.insert, lookup_assignEntry, lookup_cons_eq, h]
  cases op with
  | insert u e => exact hinsert u e
  | clear => rfl
  | getOrFetch u fetch =>
    rcases perform_getOrFetch (u := u) fetch c s with ⟨e, -, hperform⟩ | ⟨-, a, -, hperform⟩ | ⟨-, hfails, hperform⟩
    · rw [hperform]
      exact h k
    · rw [hperform]
      exact hinsert u _
    · rw [hperform]
      cases hx : (fetch s).1 with
      | value a => exact absurd hx (hfails a)
      | failed e => exact h k
      | panicked message => exact h k
  | get | contains | size | isEmpty => exact h k

/-- A cache knows what was stored since it was cleared last, and of each text the latest. -/
theorem lookup_run (ops : List (CacheOperation α σ)) {l : List (String × CacheEntry α)}
    (h : ∀ k, c.entries.lookup k = l.lookup k) (k : String) :
    (run ops c s).2.1.entries.lookup k = ((ops.zip (run ops c s).1).foldl note l).lookup k := by
  induction ops generalizing c s l with
  | nil => exact h k
  | cons op ops ih => exact ih (op.lookup_perform h)

/-- For a cache that was empty at first this is all it knows. -/
theorem lookup_leftBy (ops : List (CacheOperation α σ)) (s : σ) (k : String) :
    (leftBy ops s).entries.lookup k = (stored ops s).lookup k :=
  lookup_run ops (fun _ => rfl) k

/-- Its size is the number of different texts under which something was stored. -/
theorem size_leftBy (ops : List (CacheOperation α σ)) (s : σ) :
    (leftBy ops s).size = (entryNames (stored ops s)).toFinset.card := by
  rw [Cache.size_eq_card]
  congr 1
  ext k
  rw [Finmap.mem_keys, ← Finmap.lookup_isSome, Cache.lookup_toMap, lookup_leftBy, lookup_isSome_iff, List.mem_toFinset]

/-! ## What is known stays known -/

/-- The operation neither clears the cache nor inserts anything under a text. -/
def Spares (k : String) : CacheOperation α σ → Prop
  | .clear => False
  | .insert u _ => u.text ≠ k
  | _ => True

/-- What is known of a page survives an operation that spares it. A fetch for another page stores under another text.
-/
theorem get?_perform_of_spares {op : CacheOperation α σ} {e : CacheEntry α} (hop : op.Spares u.text)
    (h : c.get? u = some e) : (op.perform c s).2.1.get? u = some e := by
  cases op with
  | clear => exact hop.elim
  | insert v e' => rw [perform, Cache.get?_insert, if_neg (Ne.symm hop), h]
  | getOrFetch v fetch =>
    rcases perform_getOrFetch (u := v) fetch c s with ⟨e', -, hperform⟩ | ⟨hunknown, a, -, hperform⟩ | ⟨-, -, hperform⟩
    · rw [hperform, h]
    · -- Nothing was known of the page that is stored, so it is another.
      have hne : u.text ≠ v.text := fun htext => by
        rw [Cache.get?_congr c htext, hunknown] at h
        cases h
      rw [hperform, Cache.get?_insert, if_neg hne, h]
    · rw [hperform, h]
  | get | contains | size | isEmpty => exact h

/-- So it survives a sequence of such operations. -/
theorem get?_run_of_spares {ops : List (CacheOperation α σ)} {e : CacheEntry α}
    (hops : ∀ op ∈ ops, op.Spares u.text) (h : c.get? u = some e) : (run ops c s).2.1.get? u = some e := by
  induction ops generalizing c s with
  | nil => exact h
  | cons op ops ih =>
    obtain ⟨hop, hrest⟩ := List.forall_mem_cons.mp hops
    exact ih hrest (get?_perform_of_spares hop h)

/-- Pages share an entry exactly if their URLs have the same text. -/
theorem shared_iff (s : σ) (u v : Url) :
    (∀ ops : List (CacheOperation α σ), (leftBy ops s).get? u = (leftBy ops s).get? v) ↔ u.text = v.text := by
  constructor
  · intro h
    -- One entry stored under the first URL tells the two apart.
    have hinserted : (Cache.insert .empty u .absent : Cache α).get? u = (Cache.insert .empty u .absent).get? v :=
      h [.insert u .absent]
    rw [Cache.get?_insert, Cache.get?_insert, if_pos rfl] at hinserted
    by_contra hne
    rw [if_neg (Ne.symm hne)] at hinserted
    cases hinserted
  · exact fun h ops => Cache.get?_congr _ h

/-- **A cache is a finite map from the texts of URLs to entries.** Whatever is done with a cache that is empty at
first, with fetches that answer by a state of their own, shows and leaves in that state what it would show and
leave with a finite map. Pages share an entry exactly if their URLs have the same text. At any time a fetch is run
exactly if nothing is known of the page, and then once; an answer, something or nothing, is kept and given, and a
failure leaves the cache as it is. What is known is given without a fetch until it is replaced or the cache is
cleared. What is known is what was stored last under the text of the URL since the cache was cleared, and the size
is the number of texts under which something was. -/
theorem run_as_finite_map (s : σ) :
    (∀ ops : List (CacheOperation α σ),
      (run ops .empty s).1 = (runOnMap ops ∅ s).1 ∧ (run ops .empty s).2.2 = (runOnMap ops ∅ s).2.2) ∧
      (∀ u v : Url, (∀ ops : List (CacheOperation α σ), (leftBy ops s).get? u = (leftBy ops s).get? v) ↔
        u.text = v.text) ∧
      ∀ ops : List (CacheOperation α σ),
        (∀ u fetch, let c := leftBy ops s
          let t := stateAfter ops s
          (∃ e, c.get? u = some e ∧ (getOrFetch u fetch).perform c t = (.fetched (.value e) 0, c, t)) ∨
            (c.get? u = none ∧ ∃ a, (fetch t).1 = .value a ∧ (getOrFetch u fetch).perform c t =
              (.fetched (.value (.ofOption a)) 1, c.insert u (.ofOption a), (fetch t).2)) ∨
            (c.get? u = none ∧ (∀ a, (fetch t).1 ≠ .value a) ∧ (getOrFetch u fetch).perform c t =
              (.fetched ((fetch t).1.map .ofOption) 1, c, (fetch t).2))) ∧
          (∀ u e, (leftBy ops s).get? u = some e →
            ∀ later : List (CacheOperation α σ), (∀ op ∈ later, op.Spares u.text) →
              let after := (run later (leftBy ops s) (stateAfter ops s)).2
              after.1.get? u = some e ∧
                ∀ fetch, (getOrFetch u fetch).perform after.1 after.2 = (.fetched (.value e) 0, after)) ∧
          (∀ u : Url, (leftBy ops s).get? u = (stored ops s).lookup u.text) ∧
          (leftBy ops s).size = (entryNames (stored ops s)).toFinset.card := by
  refine ⟨fun ops => ?_, shared_iff s, fun ops => ⟨fun u fetch => perform_getOrFetch fetch _ _,
    fun u e hknown later hlater => ?_, fun u => lookup_leftBy ops s u.text, size_leftBy ops s⟩⟩
  · have hrun := run_eq ops .empty s
    rw [Cache.toMap_empty] at hrun
    rw [hrun]
    exact ⟨rfl, rfl⟩
  · -- What is still known is given, so the other two ways of asking are out.
    have hstill := get?_run_of_spares (s := stateAfter ops s) hlater hknown
    refine ⟨hstill, fun fetch => ?_⟩
    rcases perform_getOrFetch fetch _ (run later (leftBy ops s) (stateAfter ops s)).2.2 with
      ⟨e', hknown', hperform⟩ | ⟨hunknown, -⟩ | ⟨hunknown, -⟩
    · obtain rfl : e = e' := Option.some.inj (hstill.symm.trans hknown')
      exact hperform
    · rw [hstill] at hunknown
      cases hunknown
    · rw [hstill] at hunknown
      cases hunknown

end CacheOperation

end LinkEmbed
