import LinkEmbed.Proofs.Engine.Offer
import LinkEmbed.Proofs.Engine.Pass
import LinkEmbed.Proofs.Session.Basic
import LinkEmbed.Proofs.Session.Source

/-!
# Caches cannot be seen in the result

When all sources answer by the URL alone, a strategy with a cache makes of a page what capabilities without
any memory make of it.

* `Shelf.consult_of_agrees` — through a cache that agrees with it, a source seems to be asked each time.
* `Strategy.answers` — so a strategy in agreement with its source answers as it would without memory.
* `Coherent.of_apart`, `Action.coherent` — and it stays in agreement, whatever is done in a session.
* `Strategy.follows`, `Embedder.isUniform` — so each link gets its own report.
* `perform_eq_alone` — whatever documents were embedded before, in whatever order links are dealt with, and whenever
  caches are cleared, a document becomes what it becomes on its own.
-/

namespace LinkEmbed

/-- Whoever is asked answers about a URL the same each time. -/
def Fetcher.IsFunction {α : Type} (fetcher : Fetcher α) : Prop :=
  ∀ time time' u, fetcher time u = fetcher time' u

/-- All sources of a strategy answer by the URL alone. -/
def Strategy.IsFunction : Strategy → Prop
  | .documents d => Fetcher.IsFunction d.fetcher ∧ ∀ p ∈ d.preset.providers, Fetcher.IsFunction p.fetch
  | .cards c => Fetcher.IsFunction c.fetcher
  | .custom _ => True

/-! ## Strategies without memory -/

namespace OEmbedDocuments

/-- The document of a page, as its source knows it. -/
def answer (d : OEmbedDocuments) (u : Url) : Outcome (Option OEmbed) := d.reply u 0

/-- The element for a page as its source knows it, and an empty block if it knows nothing. -/
def shown (d : OEmbedDocuments) (u : Url) : Attempt Element :=
  match d.answer u with
  | .value (some document) => d.preset.element u document
  | _ => .value { tag := "div" }

/-- The transformer, were it to ask its source each time. -/
def capabilities (d : OEmbedDocuments) : CustomTransformer :=
  { name
    accepts := .computed fun u => (d.answer u).map Option.isSome
    tagName := .computed fun u => ((d.shown u).map Element.tag).toOutcome
    properties := .computed fun u => ((d.shown u).map Element.properties).toOutcome
    children := .computed fun u => ((d.shown u).map Element.children).toOutcome }

/-- The source of a page answers the same at any time, as whichever provider it is does. -/
theorem reply_eq_answer {d : OEmbedDocuments} (h : (Strategy.documents d).IsFunction) (u : Url) (time : Nat) :
    d.reply u time = d.answer u := by
  unfold answer reply
  cases hp : d.preset.provider? u with
  | panicked m => rfl
  | value provider =>
    cases provider with
    | none => exact congrArg (Outcome.bind · (documentOf u)) (h.1 time 0 u)
    | some kp =>
      obtain ⟨k, p⟩ := kp
      exact h.2 p (List.mem_of_getElem? (OEmbedPreset.isFirstApplying_of_provider? hp).1) time 0 u

end OEmbedDocuments

namespace LinkCards

/-- The page, as the source knows it. -/
def answer (c : LinkCards) (u : Url) : Outcome (Option Metadata) := c.fetcher 0 u

/-- The preview of a page as the source knows it. -/
def shown (c : LinkCards) (u : Url) : Outcome Preview :=
  match c.answer u with
  | .value (some page) => .value (.ofMetadata u page)
  | _ => .failed (.missingMetadata u.text)

/-- The transformer, were it to ask its source each time. -/
def capabilities (c : LinkCards) : CustomTransformer :=
  { name
    accepts := .computed fun u => (c.answer u).map Option.isSome
    tagName := .computed fun u => (c.shown u).bind fun p => (c.preset.tagName p).toOutcome
    properties := .computed fun u => (c.shown u).bind fun p => (c.preset.properties p).toOutcome
    children := .computed fun u => (c.shown u).bind fun p => (c.preset.children p).toOutcome }

end LinkCards

/-- What a strategy makes of a page, were it to ask its source each time. -/
def Strategy.capabilities : Strategy → CustomTransformer
  | .documents d => d.capabilities
  | .cards c => c.capabilities
  | .custom c => c

/-! ## Caches that agree with their source -/

namespace Shelf

variable {α : Type} (shelf : Shelf α) {u : Url} {m : Memory} {reply : Nat → Outcome (Option α)}
  {answer : Url → Outcome (Option α)}

/-- Asked through a cache that agrees with it, a source seems to be asked each time. -/
theorem consult_of_agrees (reply : Nat → Outcome (Option α)) (question : Option Question) {t : String}
    (hagrees : (shelf.get m).Agrees answer) (hu : Url.parse t = .ok u) (hreply : reply m.time = answer u) :
    (shelf.consult reply question u m).1.map CacheEntry.isFound = (answer u).map Option.isSome ∧
      (shelf.get (shelf.consult reply question u m).2).Agrees answer ∧
      ∀ a, answer u = .value a →
        ((shelf.get (shelf.consult reply question u m).2).get? u).bind CacheEntry.toOption = a := by
  rcases shelf.consult_cases reply question u m with
    ⟨e, hknown, h⟩ | ⟨a, hunknown, ha, h⟩ | ⟨hunknown, hfails, h⟩ <;> rw [h]
  · -- What is known is what the source would answer.
    have hanswer := hagrees t u e hu hknown
    refine ⟨by rw [hanswer]; rfl, hagrees, fun a ha => ?_⟩
    rw [hanswer] at ha
    obtain rfl : e.toOption = a := by injection ha
    rw [hknown, Option.bind_some]
  · -- The source answers, and the cache goes on to agree with it.
    rw [hreply] at ha
    refine ⟨by rw [ha]; simp [Outcome.map, Outcome.bind], ?_, fun a' ha' => ?_⟩
    · rw [shelf.get_set]
      exact hagrees.insert hu ha
    · obtain rfl : a = a' := by rw [ha] at ha'; injection ha'
      rw [shelf.get_set, Cache.get?_insert, if_pos rfl, Option.bind_some, CacheEntry.toOption_ofOption]
  · -- The source fails, as it would without a cache.
    rw [hreply] at hfails ⊢
    refine ⟨?_, by rw [shelf.get_noting]; exact hagrees, fun a ha => absurd ha (hfails a)⟩
    cases hanswer : answer u with
    | value a => exact absurd hanswer (hfails a)
    | failed e => rfl
    | panicked message => rfl

end Shelf

/-- What a strategy remembers agrees with its source. -/
def Strategy.IsCoherent (s : Strategy) (i : Nat) (m : Memory) : Prop :=
  match s with
  | .documents d => (m.documents i).Agrees d.answer
  | .cards c => (m.pages i).Agrees c.answer
  | .custom _ => True

/-- A rendering is made of three parts. -/
theorem Transformer.render_congr {σ τ : Type} {t : Transformer σ} {t' : Transformer τ} {u : Url} {s : σ}
    {s' : τ} (htag : t.tagName u s = t'.tagName u s') (hproperties : t.properties u s = t'.properties u s')
    (hchildren : t.children u s = t'.children u s') : t.render u s = t'.render u s' := by
  unfold render
  rw [htag, hproperties, hchildren]

/-- A strategy in agreement with its source answers as it would without memory, and stays in agreement. -/
structure Strategy.Answers (s : Strategy) (i : Nat) (u : Url) (m : Memory) : Prop where
  accepts : ((s.transformer i).accepts u m).1 = s.capabilities.accepts.evaluate u
  coherent : s.IsCoherent i ((s.transformer i).accepts u m).2
  renders : s.capabilities.accepts.evaluate u = .value true →
    (s.transformer i).render u ((s.transformer i).accepts u m).2 = s.capabilities.transformer.render u ()

section

variable {i : Nat} {t : String} {u : Url} {m : Memory}

/-- A strategy for documents, in agreement with its sources. -/
theorem OEmbedDocuments.answers {d : OEmbedDocuments} (hfunction : (Strategy.documents d).IsFunction)
    (hu : Url.parse t = .ok u) (hm : (m.documents i).Agrees d.answer) :
    (Strategy.documents d).Answers i u m := by
  obtain ⟨haccepts, hagrees, hknown⟩ :=
    (Shelf.documents i).consult_of_agrees (d.reply u) (d.question? i u) hm hu (reply_eq_answer hfunction u m.time)
  have hconsult := d.accepts_eq i u m
  refine ⟨(congrArg Prod.fst hconsult).trans haccepts, ?_, fun htrue => ?_⟩
  · show ((d.accepts i u m).2.documents i).Agrees d.answer
    rw [hconsult]
    exact hagrees
  · -- A page that is taken has a document, which is known when the page is rendered.
    obtain ⟨found, hfound, hsome⟩ := value_of_map_isSome htrue
    obtain ⟨document, rfl⟩ := Option.isSome_iff_exists.mp hsome
    have hdocument : d.answer u = .value (some document) := hfound
    have hentry : (((d.accepts i u m).2.documents i).get? u).bind CacheEntry.toOption = some document := by
      rw [hconsult]
      exact hknown (some document) hdocument
    have helement : d.element i u (d.accepts i u m).2 = d.shown u := by
      unfold element shown
      rw [hentry, hdocument]
    refine Transformer.render_congr ?_ ?_ ?_
    · exact congrArg (fun x : Attempt Element => (x.map Element.tag).toOutcome) helement
    · exact congrArg (fun x : Attempt Element => (x.map Element.properties).toOutcome) helement
    · exact congrArg (fun x : Attempt Element => (x.map Element.children).toOutcome) helement

/-- A strategy for cards, in agreement with its fetcher. -/
theorem LinkCards.answers {c : LinkCards} (hfunction : (Strategy.cards c).IsFunction)
    (hu : Url.parse t = .ok u) (hm : (m.pages i).Agrees c.answer) : (Strategy.cards c).Answers i u m := by
  obtain ⟨haccepts, hagrees, hknown⟩ :=
    (Shelf.pages i).consult_of_agrees (c.fetcher · u) (some ⟨i, none, u⟩) hm hu (hfunction m.time 0 u)
  have hconsult := c.accepts_eq i u m
  refine ⟨(congrArg Prod.fst hconsult).trans haccepts, ?_, fun htrue => ?_⟩
  · show (((c.transformer i).accepts u m).2.pages i).Agrees c.answer
    rw [hconsult]
    exact hagrees
  · obtain ⟨found, hfound, hsome⟩ := value_of_map_isSome htrue
    obtain ⟨page, rfl⟩ := Option.isSome_iff_exists.mp hsome
    -- A page was found, so it is in the cache now, and the preview is made of it.
    have hpage : c.answer u = .value (some page) := hfound
    have hentry : ((((c.transformer i).accepts u m).2.pages i).get? u).bind CacheEntry.toOption = some page := by
      rw [hconsult]
      exact hknown (some page) hpage
    have hpreview : preview i u ((c.transformer i).accepts u m).2 = c.shown u := by
      unfold preview shown
      rw [hentry, hpage]
    refine Transformer.render_congr ?_ ?_ ?_
    · exact congrArg (Outcome.bind · fun p => (c.preset.tagName p).toOutcome) hpreview
    · exact congrArg (Outcome.bind · fun p => (c.preset.properties p).toOutcome) hpreview
    · exact congrArg (Outcome.bind · fun p => (c.preset.children p).toOutcome) hpreview

/-- In agreement with its source, a strategy answers as it would without memory. -/
theorem Strategy.answers {s : Strategy} (hfunction : s.IsFunction) (hu : Url.parse t = .ok u)
    (hm : s.IsCoherent i m) : s.Answers i u m := by
  cases s with
  | documents d => exact OEmbedDocuments.answers hfunction hu hm
  | cards c => exact LinkCards.answers hfunction hu hm
  | custom c => exact ⟨rfl, trivial, fun _ => rfl⟩

/-- A strategy that forgets all is in agreement. -/
theorem Strategy.isCoherent_clear (s : Strategy) (i : Nat) (m : Memory) : s.IsCoherent i (s.clear i m) := by
  cases s with
  | documents d => simp [IsCoherent, clear, Memory.setDocuments, Cache.agrees_empty]
  | cards c => simp [IsCoherent, clear, Memory.setPages, Cache.agrees_empty]
  | custom c => trivial

end

/-! ## Sessions -/

/-- What each of some strategies remembers agrees with its source. -/
def Coherent (strategies : List Strategy) (m : Memory) : Prop :=
  ∀ i : Fin strategies.length, (strategies.get i).IsCoherent i m

section

variable {strategies : List Strategy} {m m' : Memory}

/-- So are all strategies at first. -/
theorem coherent_empty (strategies : List Strategy) : Coherent strategies {} := by
  intro i
  cases strategies.get i with
  | documents d => exact Cache.agrees_empty d.answer
  | cards c => exact Cache.agrees_empty c.answer
  | custom c => trivial

/-- Memory stays coherent when one strategy stays in agreement and nothing else changes. -/
theorem Coherent.of_apart (h : Coherent strategies m) (i : Fin strategies.length)
    (hself : (strategies.get i).IsCoherent i m')
    (hapart : ∀ j : Nat, j ≠ i → m'.documents j = m.documents j ∧ m'.pages j = m.pages j) :
    Coherent strategies m' := by
  intro j
  by_cases hij : j = i
  · -- The strategy itself stays in agreement; all others remember what they did.
    exact hij ▸ hself
  · obtain ⟨hdocuments, hpages⟩ := hapart j fun hval => hij (Fin.ext hval)
    have hj := h j
    cases hs : strategies.get j with
    | documents d =>
      rw [hs] at hj
      exact (congrArg (Cache.Agrees d.answer) hdocuments).mpr hj
    | cards c =>
      rw [hs] at hj
      exact (congrArg (Cache.Agrees c.answer) hpages).mpr hj
    | custom c => trivial

/-- Forgetting does not touch the caches of others. -/
theorem Strategy.clear_apart (s : Strategy) (i : Nat) (m : Memory) {j : Nat} (hj : j ≠ i) :
    (s.clear i m).documents j = m.documents j ∧ (s.clear i m).pages j = m.pages j := by
  cases s <;> simp [clear, Memory.setDocuments, Memory.setPages, hj]

/-- So all stay in agreement when one forgets. -/
theorem Coherent.clear (h : Coherent strategies m) (i : Fin strategies.length) :
    Coherent strategies ((strategies.get i).clear i m) :=
  h.of_apart i (Strategy.isCoherent_clear _ i m) fun _ hj => Strategy.clear_apart _ i m hj

/-- In coherent memory a strategy does what it would do without memory. -/
theorem Strategy.follows (i : Fin strategies.length) (hfunction : (strategies.get i).IsFunction) {t : String}
    {u : Url} (hu : Url.parse t = .ok u) :
    Transformer.Follows (Coherent strategies) u ((strategies.get i).transformer i)
      (strategies.get i).capabilities where
  name := by cases strategies.get i <;> rfl
  accepts m hm := (Strategy.answers hfunction hu (hm i)).accepts
  keeps m hm := hm.of_apart i (Strategy.answers hfunction hu (hm i)).coherent fun _ hj =>
    Strategy.accepts_apart _ i u m hj
  renders m hm := (Strategy.answers hfunction hu (hm i)).renders

/-- The strategies of an embedder as they are tried, without memory. -/
def Embedder.capabilities (e : Embedder) : List CustomTransformer :=
  e.order.map fun i => (e.strategies.get i).capabilities

/-- The report of a link does not depend on what is remembered, as long as that is coherent. -/
theorem Embedder.isUniform {e : Embedder} (hfunction : ∀ s ∈ e.strategies, s.IsFunction)
    (file : Option String) :
    IsUniform e.transformers file (Coherent e.strategies) (settleAnchor file e.capabilities) := by
  intro a m hm
  refine resolveAnchor_of_follows (fun t u hu => ?_) hm
  unfold Embedder.transformers Embedder.capabilities
  rw [List.forall₂_map_left_iff, List.forall₂_map_right_iff, List.forall₂_same]
  exact fun i _ => Strategy.follows i (hfunction _ (List.get_mem e.strategies i)) hu

/-- What comes of a document when each link that may be embedded gets its own report. -/
def Job.linkwise {n : Nat} {ρ : Type} (job : Job n ρ) (report : Anchor → LinkReport) : Document × ρ :=
  (job.document.settled fun a => (report a).anchor,
    (job.document.barePaths.flatMap fun p =>
      ((job.document.anchor? p).map fun a => (report a).diagnostics).getD []).foldl
        job.sink.receive job.receiver)

/-- The report of a link, were all sources asked each time. -/
def Job.report {ρ : Type} (job : Job strategies.length ρ) : Anchor → LinkReport :=
  settleAnchor (job.sink.path? job.receiver) job.embedder.capabilities

/-- A document becomes what the reports of its links say. -/
theorem Job.result_of_coherent {ρ : Type} (hfunction : ∀ s ∈ strategies, s.IsFunction)
    (job : Job strategies.length ρ) (hm : Coherent strategies m) :
    job.result m = job.linkwise job.report ∧ Coherent strategies (job.run m).memory := by
  have huniform : IsUniform job.embedder.transformers (job.sink.path? job.receiver) (Coherent strategies)
      job.report := Embedder.isUniform hfunction _
  obtain ⟨hdocument, hreceiver, hmemory⟩ :=
    job.document.resolveWith_of_uniform job.sink huniform job.complete hm
  exact ⟨Prod.ext hdocument hreceiver, hmemory⟩

/-- So does one that is the first and only one. -/
theorem Job.alone_eq_linkwise {ρ : Type} (hfunction : ∀ s ∈ strategies, s.IsFunction)
    (job : Job strategies.length ρ) : job.alone = job.linkwise job.report :=
  ({ job with links := job.document.barePaths, complete := List.Perm.refl _ } :
    Job strategies.length ρ).result_of_coherent hfunction (coherent_empty strategies) |>.1

/-- An action keeps memory coherent. -/
theorem Action.coherent {ρ : Type} (hfunction : ∀ s ∈ strategies, s.IsFunction)
    (a : Action strategies.length ρ) (hm : Coherent strategies m) : Coherent strategies (a.memory m) := by
  cases a with
  | embed job => exact (job.result_of_coherent hfunction hm).2
  | clear i => exact hm.clear i

/-- Memory is coherent after any session. -/
theorem coherent_remembered {ρ : Type} (hfunction : ∀ s ∈ strategies, s.IsFunction)
    (actions : List (Action strategies.length ρ)) : Coherent strategies (remembered actions) := by
  have hkeeps : ∀ m, Coherent strategies m → Coherent strategies (actions.foldl (fun m a => a.memory m) m) := by
    induction actions with
    | nil => exact fun m hm => hm
    | cons a rest ih => exact fun m hm => ih (a.memory m) (a.coherent hfunction hm)
  exact hkeeps {} (coherent_empty strategies)

/-- From coherent memory, each document of a session becomes what it becomes on its own. -/
theorem perform_of_coherent {ρ : Type} (hfunction : ∀ s ∈ strategies, s.IsFunction)
    (actions : List (Action strategies.length ρ)) (hm : Coherent strategies m) :
    perform actions m = (actions.filterMap Action.job?).map Job.alone := by
  induction actions generalizing m with
  | nil => rfl
  | cons a rest ih =>
    rw [perform, ih (a.coherent hfunction hm)]
    cases a with
    | embed job =>
      have halone : job.result m = job.alone :=
        (job.result_of_coherent hfunction hm).1.trans (job.alone_eq_linkwise hfunction).symm
      exact congrArg (· :: (rest.filterMap Action.job?).map Job.alone) halone
    | clear i => rfl

/-- Whatever is done in a session, each document becomes what it becomes on its own. So there is one outcome
for each link, which knows nothing of other links and other documents. -/
theorem perform_eq_alone {ρ : Type} (hfunction : ∀ s ∈ strategies, s.IsFunction) :
    (∀ actions : List (Action strategies.length ρ),
      perform actions {} = (actions.filterMap Action.job?).map Job.alone) ∧
    ∃ outcome : List (Fin strategies.length) → Option String → Anchor → LinkReport,
      ∀ job : Job strategies.length ρ,
        job.alone = job.linkwise (outcome job.order (job.sink.path? job.receiver)) := by
  refine ⟨fun actions => perform_of_coherent hfunction actions (coherent_empty strategies), ?_⟩
  exact ⟨fun order file => settleAnchor file (Embedder.capabilities ⟨strategies, order⟩),
    fun job => job.alone_eq_linkwise hfunction⟩

/-- Two sources that know nothing and one that fails: a session in which a document is embedded twice, with its
links dealt with last to first. -/
theorem perform_eq_alone_unknown :
    let strategies : List Strategy :=
      [.documents { fetcher := .ofUrl fun _ => .value none },
        .cards { fetcher := .ofUrl fun _ => .panicked none, preset := CardStyle.preset {} }]
    let document : Document :=
      ⟨[.paragraph none [.autolink "http://a.b" none], .paragraph none [.autolink "http://a.b/c" none]], none⟩
    let job : Job strategies.length (List Diagnostic) :=
      { order := [0, 1]
        document
        links := [[1, 0], [0, 0]]
        complete := by decide
        sink := .list
        receiver := [] }
    (∀ s ∈ strategies, s.IsFunction) ∧
      perform [.embed job, .clear 0, .embed job] {} = [job.alone, job.alone] := by
  intro strategies document job
  have hfunction : ∀ s ∈ strategies, s.IsFunction := by
    refine List.forall_mem_cons.mpr ⟨⟨fun _ _ _ => rfl, List.forall_mem_nil _⟩, ?_⟩
    exact List.forall_mem_cons.mpr ⟨fun _ _ _ => rfl, List.forall_mem_nil _⟩
  exact ⟨hfunction, (perform_eq_alone hfunction).1 [.embed job, .clear 0, .embed job]⟩

end

end LinkEmbed
