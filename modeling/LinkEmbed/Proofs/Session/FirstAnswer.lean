import LinkEmbed.Proofs.Engine.Watch
import LinkEmbed.Proofs.Session.Basic
import LinkEmbed.Proofs.Session.Source

/-!
# The first answer about a page sticks

Sources may answer differently each time. A strategy with a cache asks its single source about a page until
that answers, be it that there is nothing, and never again. A source that fails leaves all caches as they were.

* `Strategy.Source.unique` — there is one source for each page.
* `Strategy.consults` — all that a decision about a page can do.
* `Strategy.known?_accepts`, `Call.known?_after` — what is known stays known, by one decision after another.
* `forall_of_known`, `pairwise_sticks` — so by all decisions of a chain: the first answer sticks.
* `first_answer_sticks` — and by all decisions of a session, which are what becomes of its documents.
-/

namespace LinkEmbed

/-! ## One decision -/

/-- The source of a strategy for a page: one of its providers, or whoever knows pages in general, and whether
the page is taken as the source answers at a time. -/
inductive Strategy.Source : Strategy → Url → Option Nat → (Nat → Outcome Bool) → Prop where
  | provider {d : OEmbedDocuments} {u : Url} {k : Nat} {p : OEmbedProvider} :
      IsFirstApplying d.preset.providers u k p →
      Source (.documents d) u (some k) fun time => (p.fetch time u).map Option.isSome
  | fetcher {d : OEmbedDocuments} {u : Url} :
      (∀ p ∈ d.preset.providers, p.applies u = .value false) →
      Source (.documents d) u none fun time => ((d.fetcher time u).bind (documentOf u)).map Option.isSome
  | cards {c : LinkCards} {u : Url} :
      Source (.cards c) u none fun time => (c.fetcher time u).map Option.isSome

/-- A strategy with a cache of its own. -/
def Strategy.IsCached : Strategy → Prop
  | .documents _ => True
  | .cards _ => True
  | .custom _ => False

/-- Whether a strategy takes a page, if it knows that. -/
def Strategy.known? (s : Strategy) (i : Nat) (u : Url) (m : Memory) : Option Bool :=
  match s with
  | .documents _ => ((m.documents i).get? u).map CacheEntry.isFound
  | .cards _ => ((m.pages i).get? u).map CacheEntry.isFound
  | .custom _ => none

/-- All that a decision about a page can do: it is known already, the source is asked and answers, the source
is asked and fails, or it cannot be said whom to ask. -/
inductive Strategy.Consults (s : Strategy) (i : Nat) (u : Url) (m : Memory) :
    Outcome Bool → Memory → Prop where
  | known {b : Bool} : s.known? i u m = some b → Consults s i u m (.value b) m
  | answered {provider : Option Nat} {reply : Nat → Outcome Bool} {b : Bool} {m' : Memory} :
      s.known? i u m = none → s.Source u provider reply → reply m.time = .value b →
      m'.asked = ⟨i, provider, u⟩ :: m.asked → s.known? i u m' = some b → Consults s i u m (.value b) m'
  | failed {provider : Option Nat} {reply : Nat → Outcome Bool} :
      s.known? i u m = none → s.Source u provider reply → (∀ b, reply m.time ≠ .value b) →
      Consults s i u m (reply m.time) (m.noting (some ⟨i, provider, u⟩))
  | undecided {d : OEmbedDocuments} {p : OEmbedProvider} {message : Option String} :
      s.known? i u m = none → s = .documents d → p ∈ d.preset.providers → p.applies u = .panicked message →
      Consults s i u m (.panicked message) m

section

variable {s : Strategy} {i : Nat} {u v : Url} {m : Memory}

/-- There is only one source to ask. -/
theorem Strategy.Source.unique {provider provider' : Option Nat} {reply reply' : Nat → Outcome Bool}
    (h : s.Source u provider reply) (h' : s.Source u provider' reply') :
    provider = provider' ∧ reply = reply' := by
  cases h with
  | cards =>
    cases h'
    exact ⟨rfl, rfl⟩
  | provider hfirst =>
    cases h' with
    | provider hfirst' =>
      obtain ⟨rfl, rfl⟩ := hfirst.unique hfirst'
      exact ⟨rfl, rfl⟩
    | fetcher hnone =>
      -- The provider that was found would have refused.
      have hrefused := hnone _ (List.mem_of_getElem? hfirst.1)
      rw [hfirst.2.1] at hrefused
      cases hrefused
  | fetcher hnone =>
    cases h' with
    | fetcher => exact ⟨rfl, rfl⟩
    | provider hfirst =>
      have hrefused := hnone _ (List.mem_of_getElem? hfirst.1)
      rw [hfirst.2.1] at hrefused
      cases hrefused

/-- To consult a source through the cache of a strategy is a decision of the strategy. -/
theorem Strategy.consults_of_source {α : Type} (shelf : Shelf α) {reply : Nat → Outcome (Option α)}
    {provider : Option Nat}
    (hknown : ∀ v m, s.known? i v m = ((shelf.get m).get? v).map CacheEntry.isFound)
    (hsource : s.Source u provider fun time => (reply time).map Option.isSome) :
    s.Consults i u m ((shelf.consult reply (some ⟨i, provider, u⟩) u m).1.map CacheEntry.isFound)
      (shelf.consult reply (some ⟨i, provider, u⟩) u m).2 := by
  rcases shelf.consult_cases reply (some ⟨i, provider, u⟩) u m with
    ⟨e, hentry, h⟩ | ⟨a, hentry, ha, h⟩ | ⟨hentry, hfails, h⟩ <;> rw [h]
  · -- The page is known.
    refine .known ?_
    rw [hknown, hentry]
    rfl
  · -- The source answers, and what it answers is known from then on.
    show s.Consults i u m (.value (CacheEntry.ofOption a).isFound) _
    rw [CacheEntry.isFound_ofOption]
    refine .answered (by rw [hknown, hentry]; rfl) hsource ?_ ?_ ?_
    · rw [ha]
      rfl
    · rw [shelf.asked_set]
      rfl
    · rw [hknown, shelf.get_set, Cache.get?_insert, if_pos rfl, Option.map_some, CacheEntry.isFound_ofOption]
  · -- The source fails, and so does the decision.
    have hsame : ((reply m.time).map CacheEntry.ofOption).map CacheEntry.isFound =
        (reply m.time).map Option.isSome := by
      cases hreply : reply m.time with
      | value a => exact absurd hreply (hfails a)
      | failed e => rfl
      | panicked message => rfl
    rw [hsame]
    refine .failed (by rw [hknown, hentry]; rfl) hsource fun b hb => ?_
    obtain ⟨a, ha, -⟩ := value_of_map_isSome hb
    exact hfails a ha

section

variable {d : OEmbedDocuments}

/-- What a strategy for documents knows stands in its cache. -/
theorem OEmbedDocuments.known?_eq (d : OEmbedDocuments) (i : Nat) (u : Url) (m : Memory) :
    (Strategy.documents d).known? i u m = (((Shelf.documents i).get m).get? u).map CacheEntry.isFound := rfl

/-- No provider applies, so whoever knows pages is asked. -/
theorem Strategy.consults_of_none (h : d.preset.provider? u = .value none) :
    (Strategy.documents d).Consults i u m (d.accepts i u m).1 (d.accepts i u m).2 := by
  have hreply : d.reply u = fun time => (d.fetcher time u).bind (documentOf u) := by
    funext time
    simp only [OEmbedDocuments.reply, h]
  have hquestion : d.question? i u = some ⟨i, none, u⟩ := by simp only [OEmbedDocuments.question?, h]
  rw [d.accepts_eq, hreply, hquestion]
  exact Strategy.consults_of_source (.documents i) (d.known?_eq i)
    (.fetcher (OEmbedPreset.none_applies_of_provider? h))

/-- The first provider that applies is asked. -/
theorem Strategy.consults_of_provider {k : Nat} {p : OEmbedProvider}
    (h : d.preset.provider? u = .value (some (k, p))) :
    (Strategy.documents d).Consults i u m (d.accepts i u m).1 (d.accepts i u m).2 := by
  have hreply : d.reply u = fun time => p.fetch time u := by
    funext time
    simp only [OEmbedDocuments.reply, h]
  have hquestion : d.question? i u = some ⟨i, some k, u⟩ := by simp only [OEmbedDocuments.question?, h]
  rw [d.accepts_eq, hreply, hquestion]
  exact Strategy.consults_of_source (.documents i) (d.known?_eq i)
    (.provider (OEmbedPreset.isFirstApplying_of_provider? h))

/-- A provider broke off when it was asked whether it applies, so nobody is asked about the page. -/
theorem Strategy.consults_of_panicked {message : Option String} (h : d.preset.provider? u = .panicked message) :
    (Strategy.documents d).Consults i u m (d.accepts i u m).1 (d.accepts i u m).2 := by
  have hreply : d.reply u m.time = .panicked message := by simp only [OEmbedDocuments.reply, h]
  have hquestion : d.question? i u = none := by simp only [OEmbedDocuments.question?, h]
  rw [d.accepts_eq, hquestion]
  rcases (Shelf.documents i).consult_cases (d.reply u) none u m with
    ⟨e, hentry, hconsult⟩ | ⟨a, -, ha, -⟩ | ⟨hentry, -, hconsult⟩
  · -- What is known is still the answer.
    rw [hconsult]
    refine .known ?_
    rw [d.known?_eq, hentry]
    rfl
  · rw [hreply] at ha
    cases ha
  · rw [hconsult, hreply]
    obtain ⟨p, hp, hpanics⟩ := OEmbedPreset.panics_of_provider? h
    refine .undecided ?_ rfl hp hpanics
    rw [d.known?_eq, hentry]
    rfl

end

/-- Every decision of a strategy with a cache consults its source. -/
theorem Strategy.consults (hs : s.IsCached) (i : Nat) (u : Url) (m : Memory) :
    s.Consults i u m ((s.transformer i).accepts u m).1 ((s.transformer i).accepts u m).2 := by
  cases s with
  | custom c => exact False.elim hs
  | cards c =>
    have hconsult : ((Strategy.cards c).transformer i).accepts u m = _ := c.accepts_eq i u m
    rw [hconsult]
    exact Strategy.consults_of_source (.pages i) (fun _ _ => rfl) .cards
  | documents d =>
    show (Strategy.documents d).Consults i u m (d.accepts i u m).1 (d.accepts i u m).2
    cases hprovider : d.preset.provider? u with
    | panicked message => exact Strategy.consults_of_panicked hprovider
    | value provider =>
      cases provider with
      | none => exact Strategy.consults_of_none hprovider
      | some kp => exact Strategy.consults_of_provider hprovider

/-- What is known stays known, whatever page the strategy decides on. -/
theorem Strategy.known?_accepts {b : Bool} (hknown : s.known? i v m = some b) :
    s.known? i v ((s.transformer i).accepts u m).2 = some b := by
  cases s with
  | documents d =>
    obtain ⟨e, hentry, hb⟩ := Option.map_eq_some_iff.mp hknown
    have hconsult : ((Strategy.documents d).transformer i).accepts u m = _ := d.accepts_eq i u m
    have hkept := (Shelf.documents i).get?_consult (d.reply u) (d.question? i u) (u := u) hentry
    rw [hconsult]
    exact Option.map_eq_some_iff.mpr ⟨e, hkept, hb⟩
  | cards c =>
    obtain ⟨e, hentry, hb⟩ := Option.map_eq_some_iff.mp hknown
    have hconsult : ((Strategy.cards c).transformer i).accepts u m = _ := c.accepts_eq i u m
    have hkept := (Shelf.pages i).get?_consult (c.fetcher · u) (some ⟨i, none, u⟩) (u := u) hentry
    rw [hconsult]
    exact Option.map_eq_some_iff.mpr ⟨e, hkept, hb⟩
  | custom c => cases hknown

/-- Only what the strategy itself remembers of a page with that text counts. -/
theorem Strategy.known?_congr {m' : Memory} (htext : v.text = u.text)
    (hdocuments : m'.documents i = m.documents i) (hpages : m'.pages i = m.pages i) :
    s.known? i v m' = s.known? i u m := by
  cases s with
  | documents d =>
    show ((m'.documents i).get? v).map CacheEntry.isFound = _
    rw [hdocuments, Cache.get?_congr _ htext]
    rfl
  | cards c =>
    show ((m'.pages i).get? v).map CacheEntry.isFound = _
    rw [hpages, Cache.get?_congr _ htext]
    rfl
  | custom c => rfl

namespace Strategy.Consults

variable {answer : Outcome Bool} {m' : Memory} {b : Bool}

/-- Of a page that is known nothing is asked. -/
theorem of_known (h : s.Consults i u m answer m') (hknown : s.known? i u m = some b) :
    answer = .value b ∧ m' = m := by
  cases h with
  | known hb =>
    rw [hknown] at hb
    obtain rfl := Option.some.inj hb
    exact ⟨rfl, rfl⟩
  | answered hunknown | failed hunknown | undecided hunknown =>
    rw [hknown] at hunknown
    cases hunknown

/-- An answer is known from then on. -/
theorem known_of_value (h : s.Consults i u m (.value b) m') : s.known? i u m' = some b := by
  generalize hanswer : Outcome.value b = answer at h
  cases h with
  | known hb =>
    obtain rfl : b = _ := by injection hanswer
    exact hb
  | answered _ _ _ _ hb =>
    obtain rfl : b = _ := by injection hanswer
    exact hb
  | failed _ _ hfails => exact absurd hanswer.symm (hfails b)
  | undecided => cases hanswer

/-- The source of the page is asked once, if at all, and its answer counts. -/
theorem asked (h : s.Consults i u m answer m') :
    m'.asked = m.asked ∨ ∃ provider reply, s.Source u provider reply ∧ answer = reply m.time ∧
      m'.asked = ⟨i, provider, u⟩ :: m.asked := by
  cases h with
  | known => exact Or.inl rfl
  | undecided => exact Or.inl rfl
  | answered _ hsource hreply hasked => exact Or.inr ⟨_, _, hsource, hreply.symm, hasked⟩
  | failed _ hsource _ => exact Or.inr ⟨_, _, hsource, rfl, rfl⟩

/-- A failure changes no cache. -/
theorem kept (h : s.Consults i u m answer m') (hfails : ∀ b, answer ≠ .value b) :
    m'.pages = m.pages ∧ m'.documents = m.documents := by
  cases h with
  | known | answered => exact absurd rfl (hfails _)
  | failed | undecided => exact ⟨rfl, rfl⟩

end Strategy.Consults

end

/-! ## The decisions of a session -/

section

variable {strategies : List Strategy} {ρ : Type}

/-- The transformer of the strategy with a number. -/
def numbered (strategies : List Strategy) (i : Fin strategies.length) : Transformer Memory :=
  (strategies.get i).transformer i

/-- Do the work with what is remembered, and write all decisions down. -/
def Job.watch (job : Job strategies.length ρ) (m : Memory) :
    Outgoing (Memory × List (Call (Fin strategies.length) Memory)) ρ :=
  job.document.resolveWith (watchAll (numbered strategies) job.order) job.sink job.links (m, []) job.receiver

/-- All decisions of a session, the latest last. -/
def history : List (Job strategies.length ρ) → Memory → List (Call (Fin strategies.length) Memory)
  | [], _ => []
  | job :: rest, m => (job.watch m).memory.2 ++ history rest (job.run m).memory

/-- The decisions for each link account for the work: watching changes nothing of it, decisions for a link are
about its page, and each that fails leaves one diagnostic. -/
structure Job.IsAccounted (job : Job strategies.length ρ) (m : Memory)
    (calls : Path → List (Call (Fin strategies.length) Memory)) : Prop where
  document : (job.watch m).document = (job.run m).document
  memory : (job.watch m).memory = ((job.run m).memory, job.links.flatMap calls)
  receiver : (job.watch m).receiver = (job.run m).receiver
  pages : ∀ p ∈ job.links, ∀ c ∈ calls p, ∃ a, job.document.anchor? p = some a ∧ Url.parse a.url = .ok c.url
  diagnostics : (job.run m).receiver =
    (job.document.barePaths.flatMap fun p =>
      ((job.document.anchor? p).map fun a => (calls p).filterMap
        (Call.diagnostic? (numbered strategies) (job.sink.path? job.receiver) a)).getD []).foldl
      job.sink.receive job.receiver

namespace Call

/-- What holds of every decision on its own. -/
structure IsLawful (c : Call (Fin strategies.length) Memory) : Prop where
  genuine : c.IsGenuine (numbered strategies)
  /-- Nobody is asked, or the source of the page is asked once and its answer counts. -/
  once : c.after.asked = c.before.asked ∨
    ∃ provider reply, (strategies.get c.number).Source c.url provider reply ∧
      c.answer = reply c.before.time ∧ c.after.asked = ⟨c.number, provider, c.url⟩ :: c.before.asked
  /-- A decision that fails leaves all caches as they were. -/
  kept : (∀ b, c.answer ≠ .value b) →
    c.after.pages = c.before.pages ∧ c.after.documents = c.before.documents
  /-- A decision that fails leaves a diagnostic. -/
  reported : ∀ e, c.answer.guarded = .error e → ∀ file a, c.diagnostic? (numbered strategies) file a =
    some (.embedFailure (strategies.get c.number).name a.url file a.position e)

/-- What a strategy with a cache once decided about a page, it decides without asking ever after. -/
def Sticks (c later : Call (Fin strategies.length) Memory) : Prop :=
  (strategies.get c.number).IsCached → later.number = c.number → later.url.text = c.url.text →
    ∀ b, c.answer = .value b → later.answer = .value b ∧ later.after = later.before

variable {c : Call (Fin strategies.length) Memory}

/-- A decision that was written down is one that the strategy made. -/
theorem IsGenuine.accepts (hc : c.IsGenuine (numbered strategies)) :
    ((strategies.get c.number).transformer c.number).accepts c.url c.before = (c.answer, c.after) := hc

/-- So it consults the source of the page. -/
theorem consults_of_genuine (hc : c.IsGenuine (numbered strategies))
    (hs : (strategies.get c.number).IsCached) :
    (strategies.get c.number).Consults c.number c.url c.before c.answer c.after := by
  have hconsults := Strategy.consults hs c.number c.url c.before
  rwa [hc.accepts] at hconsults

/-- A strategy without cache leaves everything as it was. -/
theorem eq_of_custom (hc : c.IsGenuine (numbered strategies)) (hs : ¬ (strategies.get c.number).IsCached) :
    c.after = c.before := by
  have haccepts := hc.accepts
  revert hs haccepts
  cases strategies.get c.number with
  | documents d => exact fun hs => absurd trivial hs
  | cards d => exact fun hs => absurd trivial hs
  | custom d => exact fun _ haccepts => (congrArg Prod.snd haccepts).symm

/-- What holds of every decision follows from how decisions are made. -/
theorem isLawful_of_genuine (hc : c.IsGenuine (numbered strategies)) : c.IsLawful := by
  refine ⟨hc, ?_, ?_, ?_⟩
  · -- A strategy without a cache asks nobody.
    by_cases hs : (strategies.get c.number).IsCached
    · exact (consults_of_genuine hc hs).asked
    · exact Or.inl (congrArg Memory.asked (eq_of_custom hc hs))
  · intro hfails
    by_cases hs : (strategies.get c.number).IsCached
    · exact (consults_of_genuine hc hs).kept hfails
    · rw [eq_of_custom hc hs]
      exact ⟨rfl, rfl⟩
  · intro e he file a
    have hname : (numbered strategies c.number).name = (strategies.get c.number).name := by
      unfold numbered
      cases strategies.get c.number <;> rfl
    rw [diagnostic?_of_failed he, hname]

/-- What any strategy knows of a page stays known after any decision. -/
theorem known?_after (hc : c.IsGenuine (numbered strategies)) {i : Fin strategies.length} {v : Url} {b : Bool}
    (hknown : (strategies.get i).known? i v c.before = some b) :
    (strategies.get i).known? i v c.after = some b := by
  by_cases hi : i = c.number
  · subst hi
    have hkept := Strategy.known?_accepts (u := c.url) hknown
    rwa [hc.accepts] at hkept
  · have hval : (i : Nat) ≠ c.number := fun h => hi (Fin.ext h)
    have hapart := Strategy.accepts_apart (strategies.get c.number) c.number c.url c.before hval
    rw [hc.accepts] at hapart
    rw [Strategy.known?_congr rfl hapart.1 hapart.2]
    exact hknown

/-- With what a strategy once knows of a page, it decides about it without asking. -/
theorem of_known {i : Fin strategies.length} {v : Url} {b : Bool} (hc : c.IsGenuine (numbered strategies))
    (hknown : (strategies.get i).known? i v c.before = some b) (hnumber : c.number = i)
    (htext : c.url.text = v.text) : c.answer = .value b ∧ c.after = c.before := by
  subst hnumber
  have hs : (strategies.get c.number).IsCached := by
    revert hknown
    cases strategies.get c.number with
    | documents d | cards d => exact fun _ => trivial
    | custom d => exact fun hknown => nomatch hknown
  refine (consults_of_genuine hc hs).of_known ?_
  rw [Strategy.known?_congr htext rfl rfl]
  exact hknown

end Call

/-- Once a strategy knows of a page, it asks nobody about it for the rest of a chain of decisions. -/
theorem forall_of_known {first last : Memory} {calls : List (Call (Fin strategies.length) Memory)}
    (hchain : Chained first calls last) (hgenuine : ∀ c ∈ calls, c.IsGenuine (numbered strategies))
    {i : Fin strategies.length} {v : Url} {b : Bool} (hknown : (strategies.get i).known? i v first = some b) :
    ∀ c ∈ calls, c.number = i → c.url.text = v.text → c.answer = .value b ∧ c.after = c.before := by
  induction calls generalizing first with
  | nil => exact List.forall_mem_nil _
  | cons c calls ih =>
    obtain ⟨rfl, hrest⟩ := hchain
    obtain ⟨hc, hcalls⟩ := List.forall_mem_cons.mp hgenuine
    exact List.forall_mem_cons.mpr ⟨Call.of_known hc hknown, ih hrest hcalls (Call.known?_after hc hknown)⟩

/-- In a chain of decisions the first answer about a page sticks. -/
theorem pairwise_sticks {first last : Memory} {calls : List (Call (Fin strategies.length) Memory)}
    (hchain : Chained first calls last) (hgenuine : ∀ c ∈ calls, c.IsGenuine (numbered strategies)) :
    calls.Pairwise Call.Sticks := by
  induction calls generalizing first with
  | nil => exact List.Pairwise.nil
  | cons c calls ih =>
    obtain ⟨-, hrest⟩ := hchain
    obtain ⟨hc, hcalls⟩ := List.forall_mem_cons.mp hgenuine
    refine List.pairwise_cons.mpr ⟨fun later hlater hs hnumber htext b hb => ?_, ih hrest hcalls⟩
    -- The answer of `c` is known when the rest begins.
    have hconsults := Call.consults_of_genuine hc hs
    rw [hb] at hconsults
    exact forall_of_known hrest hcalls hconsults.known_of_value later hlater hnumber htext

/-! ## Whole sessions -/

/-- What is written down of a document accounts for what becomes of it. -/
theorem Job.accounted (job : Job strategies.length ρ) (m : Memory) :
    ∃ calls, job.IsAccounted m calls ∧ Chained m (job.watch m).memory.2 (job.run m).memory ∧
      (∀ c ∈ (job.watch m).memory.2, c.IsGenuine (numbered strategies)) ∧
      job.document.Becomes job.links (fun p a b => Shows (numbered strategies) a (calls p) b)
        (job.run m).document := by
  obtain ⟨calls, hwatch, hchain, hgenuine, hreceiver, hbecomes⟩ :=
    job.document.resolveWith_watched (numbered strategies) job.order job.sink job.complete m job.receiver
  have hmemory : (job.watch m).memory = ((job.run m).memory, job.links.flatMap calls) :=
    congrArg Outgoing.memory hwatch
  -- Only bookkeeping: what is watched of a document is what is written down of it.
  have haccounted : job.IsAccounted m calls :=
    { document := congrArg Outgoing.document hwatch
      memory := hmemory
      receiver := congrArg Outgoing.receiver hwatch
      pages := fun p hp c hc => (hgenuine p hp c hc).2
      diagnostics := hreceiver }
  refine ⟨calls, haccounted, ?_, ?_, hbecomes⟩
  · rw [hmemory]
    exact hchain
  · rw [hmemory]
    intro c hc
    obtain ⟨p, hp, hc⟩ := List.mem_flatMap.mp hc
    exact (hgenuine p hp c hc).1

/-- The decisions of a session hand memory on from the first to the last. -/
theorem chained_history (jobs : List (Job strategies.length ρ)) (m : Memory) :
    Chained m (history jobs m) (jobs.foldl (fun m job => (job.run m).memory) m) := by
  induction jobs generalizing m with
  | nil => rfl
  | cons job rest ih =>
    obtain ⟨-, -, hchain, -, -⟩ := job.accounted m
    exact hchain.append (ih _)

/-- All of them are decisions of the strategies. -/
theorem genuine_history (jobs : List (Job strategies.length ρ)) (m : Memory) :
    ∀ c ∈ history jobs m, c.IsGenuine (numbered strategies) := by
  induction jobs generalizing m with
  | nil => exact List.forall_mem_nil _
  | cons job rest ih =>
    obtain ⟨-, -, -, hgenuine, -⟩ := job.accounted m
    exact List.forall_mem_append.mpr ⟨hgenuine, ih _⟩

/-- Whatever sources answer and however their answers change, documents are embedded one after another by
decisions that hand memory on. Each asks the single source of its page at most once; one that fails changes no
cache and leaves one diagnostic. From the first answer about a page on, its strategy asks nobody about it and
decides the same. -/
theorem first_answer_sticks (jobs : List (Job strategies.length ρ)) (m : Memory) :
    (∀ (job : Job strategies.length ρ) m', ∃ calls, job.IsAccounted m' calls) ∧
      Chained m (history jobs m) (jobs.foldl (fun m job => (job.run m).memory) m) ∧
      (∀ c ∈ history jobs m, c.IsLawful) ∧ (history jobs m).Pairwise Call.Sticks := by
  have hgenuine := genuine_history jobs m
  refine ⟨fun job m' => ?_, chained_history jobs m, ?_, ?_⟩
  · obtain ⟨calls, haccounted, -⟩ := job.accounted m'
    exact ⟨calls, haccounted⟩
  · exact fun c hc => Call.isLawful_of_genuine (hgenuine c hc)
  · exact pairwise_sticks (chained_history jobs m) hgenuine

end

end LinkEmbed
