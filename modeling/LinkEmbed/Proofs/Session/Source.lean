import LinkEmbed.Embedder
import LinkEmbed.Proofs.Session.Cache

/-!
# Whom strategies ask

A strategy with a cache has one source for each page: the first provider that applies to it, or whoever knows
pages in general.

* `OEmbedPreset.isFirstApplying_of_provider?`, `OEmbedPreset.none_applies_of_provider?`,
  `OEmbedPreset.panics_of_provider?` — how the search for a provider ends.
* `IsFirstApplying.unique` — only one provider is the first that applies.
* `OEmbedDocuments.lookup_eq` — to look a document up is to ask this source, and nothing is left but the question.
* `Shelf.consult_cases` — the three ways to ask a source through a cache.
* `Strategy.accepts_apart` — no strategy touches the caches of another.
-/

namespace LinkEmbed

/-! ## The provider that applies -/

/-- `k` is the index of the first provider that applies to a page. -/
def IsFirstApplying (ps : List OEmbedProvider) (u : Url) (k : Nat) (p : OEmbedProvider) : Prop :=
  ps[k]? = some p ∧ p.applies u = .value true ∧ ∀ j < k, ∀ q, ps[j]? = some q → q.applies u = .value false

/-- A provider that is found applies, and none before it does. -/
theorem isFirstApplying_of_firstApplying {ps : List OEmbedProvider} {u : Url} {i k : Nat} {p : OEmbedProvider}
    (h : OEmbedPreset.firstApplying u i ps = .value (some (k, p))) :
    ∃ n, k = i + n ∧ IsFirstApplying ps u n p := by
  induction ps generalizing i with
  | nil => cases h
  | cons q ps ih =>
    rw [OEmbedPreset.firstApplying] at h
    cases hq : q.applies u with
    | panicked m =>
      rw [hq] at h
      cases h
    | value b =>
      rw [hq] at h
      cases b with
      | true =>
        -- This provider applies, so nobody before it does.
        obtain ⟨rfl, rfl⟩ : i = k ∧ q = p := by simpa [Attempt.bind] using h
        exact ⟨0, rfl, rfl, hq, fun j hj => absurd hj (Nat.not_lt_zero j)⟩
      | false =>
        obtain ⟨n, rfl, hn, hp, hbefore⟩ := ih h
        refine ⟨n + 1, by omega, by simpa using hn, hp, fun j hj q' hq' => ?_⟩
        cases j with
        | zero =>
          obtain rfl : q = q' := by simpa using hq'
          exact hq
        | succ j => exact hbefore j (Nat.lt_of_succ_lt_succ hj) q' (by simpa using hq')

/-- When none is found, each was asked and does not apply. -/
theorem none_applies_of_firstApplying {ps : List OEmbedProvider} {u : Url} {i : Nat}
    (h : OEmbedPreset.firstApplying u i ps = .value none) : ∀ p ∈ ps, p.applies u = .value false := by
  induction ps generalizing i with
  | nil => exact List.forall_mem_nil _
  | cons q ps ih =>
    rw [OEmbedPreset.firstApplying] at h
    cases hq : q.applies u with
    | panicked m =>
      rw [hq] at h
      cases h
    | value b =>
      rw [hq] at h
      cases b with
      | true => cases h
      | false => exact List.forall_mem_cons.mpr ⟨hq, ih h⟩

/-- When the search breaks off, so did one of the providers. -/
theorem panics_of_firstApplying {ps : List OEmbedProvider} {u : Url} {i : Nat} {message : Option String}
    (h : OEmbedPreset.firstApplying u i ps = .panicked message) :
    ∃ p ∈ ps, p.applies u = .panicked message := by
  induction ps generalizing i with
  | nil => cases h
  | cons q ps ih =>
    rw [OEmbedPreset.firstApplying] at h
    cases hq : q.applies u with
    | panicked m =>
      rw [hq] at h
      obtain rfl : m = message := by simpa [Attempt.bind] using h
      exact ⟨q, List.mem_cons_self, hq⟩
    | value b =>
      rw [hq] at h
      cases b with
      | true => cases h
      | false =>
        obtain ⟨p, hp, hpanics⟩ := ih h
        exact ⟨p, List.mem_cons_of_mem q hp, hpanics⟩

/-- Only one provider is the first that applies. -/
theorem IsFirstApplying.unique {ps : List OEmbedProvider} {u : Url} {k k' : Nat} {p p' : OEmbedProvider}
    (h : IsFirstApplying ps u k p) (h' : IsFirstApplying ps u k' p') : k = k' ∧ p = p' := by
  obtain ⟨hk, hp, hbefore⟩ := h
  obtain ⟨hk', hp', hbefore'⟩ := h'
  -- Whichever of the two comes later does not apply first.
  rcases Nat.lt_trichotomy k k' with hlt | rfl | hlt
  · have hrefused := hbefore' k hlt p hk
    rw [hp] at hrefused
    cases hrefused
  · exact ⟨rfl, Option.some.inj (hk.symm.trans hk')⟩
  · have hrefused := hbefore k' hlt p' hk'
    rw [hp'] at hrefused
    cases hrefused

namespace OEmbedPreset

/-- The provider of a page is the first that applies. -/
theorem isFirstApplying_of_provider? {preset : OEmbedPreset} {u : Url} {k : Nat} {p : OEmbedProvider}
    (h : preset.provider? u = .value (some (k, p))) : IsFirstApplying preset.providers u k p := by
  obtain ⟨n, rfl, hn⟩ := isFirstApplying_of_firstApplying h
  rwa [Nat.zero_add]

/-- A page without provider is one to which none applies. -/
theorem none_applies_of_provider? {preset : OEmbedPreset} {u : Url} (h : preset.provider? u = .value none) :
    ∀ p ∈ preset.providers, p.applies u = .value false :=
  none_applies_of_firstApplying h

/-- The search for the provider of a page breaks off where a provider does. -/
theorem panics_of_provider? {preset : OEmbedPreset} {u : Url} {message : Option String}
    (h : preset.provider? u = .panicked message) : ∃ p ∈ preset.providers, p.applies u = .panicked message :=
  panics_of_firstApplying h

end OEmbedPreset

/-! ## Asking the source -/

/-- The document that a page points to, if the page is known. -/
def documentOf (u : Url) (page : Option Metadata) : Outcome (Option OEmbed) :=
  match page with
  | some p => .ofExcept (p.document? u)
  | none => .value none

/-- Whether there is something is only answered with an answer. -/
theorem value_of_map_isSome {α : Type} {x : Outcome (Option α)} {b : Bool}
    (h : x.map Option.isSome = .value b) : ∃ a, x = .value a ∧ a.isSome = b := by
  cases x with
  | value a => exact ⟨a, rfl, by injection h⟩
  | failed e => cases h
  | panicked message => cases h

/-- The question that goes to the source of documents, if one is asked. -/
def OEmbedDocuments.question? (d : OEmbedDocuments) (i : Nat) (u : Url) : Option Question :=
  match d.preset.provider? u with
  | .panicked _ => none
  | .value (some (k, _)) => some ⟨i, some k, u⟩
  | .value none => some ⟨i, none, u⟩

/-- What the source of documents answers at a time. -/
def OEmbedDocuments.reply (d : OEmbedDocuments) (u : Url) (time : Nat) : Outcome (Option OEmbed) :=
  match d.preset.provider? u with
  | .panicked message => .panicked message
  | .value (some (_, p)) => p.fetch time u
  | .value none => (d.fetcher time u).bind (documentOf u)

/-- Memory with a question written down, if one was asked. -/
def Memory.noting (m : Memory) (question : Option Question) : Memory :=
  { m with asked := question.toList ++ m.asked }

/-- A question, if there is one, is all that looking a document up leaves in memory. -/
theorem OEmbedDocuments.lookup_eq (d : OEmbedDocuments) (i : Nat) (u : Url) (m : Memory) :
    d.lookup i u m = (d.reply u m.time, m.noting (d.question? i u)) := by
  unfold lookup reply question?
  cases d.preset.provider? u with
  | panicked message => rfl
  | value provider =>
    cases provider with
    | none => rfl
    | some kp => rfl

/-! ## Caches in memory -/

/-- A place in memory where a cache stands. -/
structure Shelf (α : Type) where
  get : Memory → Cache α
  set : Memory → Cache α → Memory
  get_set : ∀ m c, get (set m c) = c
  set_get : ∀ m, set m (get m) = m
  get_noting : ∀ m question, get (m.noting question) = get m
  asked_set : ∀ m c, (set m c).asked = m.asked

@[simp] theorem Memory.update_self {α : Type} (f : Nat → α) (i : Nat) : update f i (f i) = f := by
  funext j
  by_cases h : j = i <;> simp [update, h]

@[simp] theorem Memory.update_apply {α : Type} (f : Nat → α) (i : Nat) (a : α) (j : Nat) :
    update f i a j = if j = i then a else f j := rfl

/-- The cache of oEmbed documents with a number. -/
def Shelf.documents (i : Nat) : Shelf OEmbed :=
  { get := fun m => m.documents i
    set := fun m c => m.setDocuments i c
    get_set := by simp [Memory.setDocuments]
    set_get := by simp [Memory.setDocuments]
    get_noting := fun _ _ => rfl
    asked_set := fun _ _ => rfl }

/-- The cache of pages with a number. -/
def Shelf.pages (i : Nat) : Shelf Metadata :=
  { get := fun m => m.pages i
    set := fun m c => m.setPages i c
    get_set := by simp [Memory.setPages]
    set_get := by simp [Memory.setPages]
    get_noting := fun _ _ => rfl
    asked_set := fun _ _ => rfl }

namespace Shelf

variable {α β : Type} (shelf : Shelf α) {u : Url} {m : Memory} {reply : Nat → Outcome (Option α)}
  {question : Option Question}

/-- Ask a source through a cache. -/
def consult (reply : Nat → Outcome (Option α)) (question : Option Question) (u : Url) (m : Memory) :
    Outcome (CacheEntry α) × Memory :=
  let (answer, c, m) := (shelf.get m).getOrFetch u (fun m => (reply m.time, m.noting question)) m
  (answer, shelf.set m c)

/-- There are three ways to ask a source through a cache: it is not needed, it answers and the answer is
kept, or it fails and no cache changes. -/
theorem consult_cases (reply : Nat → Outcome (Option α)) (question : Option Question) (u : Url) (m : Memory) :
    (∃ e, (shelf.get m).get? u = some e ∧ shelf.consult reply question u m = (.value e, m)) ∨
      (∃ a, (shelf.get m).get? u = none ∧ reply m.time = .value a ∧
        shelf.consult reply question u m =
          (.value (.ofOption a), shelf.set (m.noting question) ((shelf.get m).insert u (.ofOption a)))) ∨
      ((shelf.get m).get? u = none ∧ (∀ a, reply m.time ≠ .value a) ∧
        shelf.consult reply question u m = ((reply m.time).map .ofOption, m.noting question)) := by
  let ask : Memory → Outcome (Option α) × Memory := fun m => (reply m.time, m.noting question)
  have hconsult : shelf.consult reply question u m =
      (((shelf.get m).getOrFetch u ask m).1,
        shelf.set ((shelf.get m).getOrFetch u ask m).2.2 ((shelf.get m).getOrFetch u ask m).2.1) := rfl
  rw [hconsult]
  cases hknown : (shelf.get m).get? u with
  | some e =>
    refine Or.inl ⟨e, rfl, ?_⟩
    rw [Cache.getOrFetch_known ask hknown, shelf.set_get]
  | none =>
    by_cases hanswer : ∃ a, reply m.time = .value a
    · obtain ⟨a, ha⟩ := hanswer
      refine Or.inr (Or.inl ⟨a, rfl, ha, ?_⟩)
      rw [Cache.getOrFetch_answered ask hknown ha]
    · -- The question stays written down, but the cache is put back as it was.
      have hnone : ∀ a, reply m.time ≠ .value a := fun a ha => hanswer ⟨a, ha⟩
      refine Or.inr (Or.inr ⟨rfl, hnone, ?_⟩)
      rw [Cache.getOrFetch_unanswered ask hknown hnone]
      have hkept : shelf.set (m.noting question) (shelf.get m) = m.noting question := by
        rw [← shelf.get_noting m question, shelf.set_get]
      exact congrArg (Prod.mk _) hkept

/-- What is known of a page stays known, whatever page the source is asked about. -/
theorem get?_consult (reply : Nat → Outcome (Option α)) (question : Option Question) {v : Url}
    {e : CacheEntry α} (h : (shelf.get m).get? v = some e) :
    (shelf.get (shelf.consult reply question u m).2).get? v = some e := by
  rcases shelf.consult_cases reply question u m with
    ⟨e', -, hconsult⟩ | ⟨a, hunknown, -, hconsult⟩ | ⟨-, -, hconsult⟩ <;> rw [hconsult]
  · exact h
  · rw [shelf.get_set, Cache.get?_insert]
    by_cases htext : v.text = u.text
    · -- A page is only written down when nothing is known of it.
      rw [Cache.get?_congr _ htext, hunknown] at h
      cases h
    · rw [if_neg htext]
      exact h
  · rw [shelf.get_noting]
    exact h

/-- A cache that stands elsewhere stays as it is. -/
theorem get_consult_of_apart (other : Shelf β) (reply : Nat → Outcome (Option α)) (question : Option Question)
    (hapart : ∀ m c, other.get (shelf.set m c) = other.get m) :
    other.get (shelf.consult reply question u m).2 = other.get m := by
  rcases shelf.consult_cases reply question u m with ⟨e, -, h⟩ | ⟨a, -, -, h⟩ | ⟨-, -, h⟩ <;> rw [h]
  · rw [hapart, other.get_noting]
  · rw [other.get_noting]

end Shelf

/-- To decide on a page is to ask its source through the cache of documents. -/
theorem OEmbedDocuments.accepts_eq (d : OEmbedDocuments) (i : Nat) (u : Url) (m : Memory) :
    d.accepts i u m =
      (((Shelf.documents i).consult (d.reply u) (d.question? i u) u m).1.map CacheEntry.isFound,
        ((Shelf.documents i).consult (d.reply u) (d.question? i u) u m).2) := by
  have hlookup : d.lookup i u = fun m => (d.reply u m.time, m.noting (d.question? i u)) :=
    funext (d.lookup_eq i u)
  unfold accepts Shelf.consult
  rw [hlookup]
  rfl

/-- Or through the cache of pages. -/
theorem LinkCards.accepts_eq (c : LinkCards) (i : Nat) (u : Url) (m : Memory) :
    (c.transformer i).accepts u m =
      (((Shelf.pages i).consult (c.fetcher · u) (some ⟨i, none, u⟩) u m).1.map CacheEntry.isFound,
        ((Shelf.pages i).consult (c.fetcher · u) (some ⟨i, none, u⟩) u m).2) := rfl

/-- A strategy leaves the caches of all others as they are. -/
theorem Strategy.accepts_apart (s : Strategy) (i : Nat) (u : Url) (m : Memory) {j : Nat} (hj : j ≠ i) :
    ((s.transformer i).accepts u m).2.documents j = m.documents j ∧
      ((s.transformer i).accepts u m).2.pages j = m.pages j := by
  cases s with
  | documents d =>
    have hconsult : ((Strategy.documents d).transformer i).accepts u m = _ := d.accepts_eq i u m
    -- A strategy consults its own shelf only.
    have hapart := fun {β : Type} (other : Shelf β) =>
      (Shelf.documents i).get_consult_of_apart other (d.reply u) (d.question? i u) (u := u) (m := m)
    rw [hconsult]
    exact ⟨hapart (.documents j) (by simp [Shelf.documents, Memory.setDocuments, hj]),
      hapart (.pages j) fun _ _ => rfl⟩
  | cards c =>
    have hconsult : ((Strategy.cards c).transformer i).accepts u m = _ := c.accepts_eq i u m
    have hapart := fun {β : Type} (other : Shelf β) =>
      (Shelf.pages i).get_consult_of_apart other (c.fetcher · u) (some ⟨i, none, u⟩) (u := u) (m := m)
    rw [hconsult]
    exact ⟨hapart (.documents j) fun _ _ => rfl,
      hapart (.pages j) (by simp [Shelf.pages, Memory.setPages, hj])⟩
  | custom c => exact ⟨rfl, rfl⟩

end LinkEmbed
