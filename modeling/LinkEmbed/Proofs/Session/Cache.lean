import LinkEmbed.Proofs.Url.Canonical
import LinkEmbed.Transformer.Memory

/-!
# What a cache knows

A cache is asked through `Cache.getOrFetch`, and there are three ways for that to go, each with its equation.

* `Cache.getOrFetch_known` — something is known, and nobody is asked.
* `Cache.getOrFetch_answered` — the source answers, and the answer is known from then on.
* `Cache.getOrFetch_unanswered` — the source fails, and the cache stays as it is.
* `Cache.Agrees.insert` — a cache that agrees with a source goes on to do so when an answer of it is stored.
-/

namespace LinkEmbed

namespace CacheEntry

variable {α : Type}

@[simp] theorem toOption_ofOption (a : Option α) : (ofOption a).toOption = a := by
  cases a <;> rfl

@[simp] theorem isFound_ofOption (a : Option α) : (ofOption a).isFound = a.isSome := by
  cases a <;> rfl

end CacheEntry

namespace Cache

variable {α σ : Type} {c : Cache α} {u : Url} {s : σ}

/-- Only the text of a URL counts. -/
theorem get?_insert (c : Cache α) (u v : Url) (e : CacheEntry α) :
    (c.insert u e).get? v = if v.text = u.text then some e else c.get? v :=
  lookup_assignEntry u.text e c.entries v.text

theorem get?_congr (c : Cache α) {u v : Url} (h : u.text = v.text) : c.get? u = c.get? v := by
  unfold get?
  rw [h]

/-! ## Asking through a cache -/

theorem getOrFetch_known (fetch : σ → Outcome (Option α) × σ) {e : CacheEntry α} (h : c.get? u = some e) :
    c.getOrFetch u fetch s = (.value e, c, s) := by
  rw [getOrFetch, h]

/-- An answer is stored and given, be it that there is nothing. -/
theorem getOrFetch_answered (fetch : σ → Outcome (Option α) × σ) {a : Option α} (h : c.get? u = none)
    (hfetch : (fetch s).1 = .value a) :
    c.getOrFetch u fetch s = (.value (.ofOption a), c.insert u (.ofOption a), (fetch s).2) := by
  rw [getOrFetch, h]
  rcases hf : fetch s with ⟨x, s'⟩
  rw [hf] at hfetch
  obtain rfl : x = .value a := hfetch
  rfl

/-- A failure is passed on, and nothing of it is stored. -/
theorem getOrFetch_unanswered (fetch : σ → Outcome (Option α) × σ) (h : c.get? u = none)
    (hfetch : ∀ a, (fetch s).1 ≠ .value a) :
    c.getOrFetch u fetch s = ((fetch s).1.map .ofOption, c, (fetch s).2) := by
  rw [getOrFetch, h]
  rcases hf : fetch s with ⟨x, s'⟩
  rw [hf] at hfetch
  cases x with
  | value a => exact absurd rfl (hfetch a)
  | failed e => rfl
  | panicked m => rfl

/-! ## Agreeing with a source -/

/-- All that a cache knows of pages is what a source answers about them. -/
def Agrees (answer : Url → Outcome (Option α)) (c : Cache α) : Prop :=
  ∀ t u e, Url.parse t = .ok u → c.get? u = some e → answer u = .value e.toOption

/-- A cache that knows nothing agrees with every source. -/
theorem agrees_empty (answer : Url → Outcome (Option α)) : empty.Agrees answer := by
  intro t u e _ h
  cases h

/-- Pages with the same text are the same page, so a cache by texts may agree. -/
theorem Agrees.insert {answer : Url → Outcome (Option α)} {t : String} {a : Option α} (h : c.Agrees answer)
    (hu : Url.parse t = .ok u) (ha : answer u = .value a) : (c.insert u (.ofOption a)).Agrees answer := by
  intro t' v e hv he
  rw [get?_insert] at he
  split at he
  next htext =>
    -- The cache knows pages by their text, and the source by their URL.
    obtain rfl := Url.eq_of_text_eq hv hu htext
    obtain rfl := Option.some.inj he
    rw [CacheEntry.toOption_ofOption, ha]
  next => exact h t' v e hv he

end Cache

end LinkEmbed
