import LinkEmbed.Proofs.Session.Memoryless
import LinkEmbed.Proofs.Session.Renderable

/-!
# Embedding a document once more

When all sources answer by the URL alone, what can be told of a page never changes: it is what is known of it, or
else what its source answers. So to embed the outcome once more changes nothing. Embeds are made from what a link
says itself, so nothing piles up.

* `Shelf.told_consult` — asking about one page changes nothing of what is told of any.
* `Strategy.repeats`, `Strategy.follows_frozen` — so a strategy goes on to do what it would do first thing.
* `Job.run_of_tellTheSame` — each destination has one outcome, for all documents that are embedded.
* `Document.concluded_concluded`, `Document.messages_concluded` — with an outcome for each destination, nothing changes
  the second time.
* `Job.questions_of_second` — nobody is asked again about a page that was decided on.
* `run_again_changes_nothing` — all of this for a document that is embedded twice.
-/

namespace LinkEmbed

/-! ## What is told of a page -/

namespace Shelf

variable {α : Type} {shelf : Shelf α} {answer : Url → Outcome (Option α)} {reply : Nat → Outcome (Option α)}
  {question : Option Question} {t t' : String} {u v : Url} {m : Memory} {e : CacheEntry α}

/-- What asking for a page comes to: what is known of it, and what the source answers otherwise. -/
def told (shelf : Shelf α) (answer : Url → Outcome (Option α)) (m : Memory) (u : Url) : Outcome (CacheEntry α) :=
  match (shelf.get m).get? u with
  | some e => .value e
  | none => (answer u).map .ofOption

theorem told_congr {m' : Memory} (h : shelf.get m' = shelf.get m) :
    shelf.told answer m' u = shelf.told answer m u := by
  rw [told, told, h]

/-- To ask through a cache gives what is told. -/
theorem consult_eq_told (hreply : reply m.time = answer u) :
    (shelf.consult reply question u m).1 = shelf.told answer m u := by
  rcases shelf.consult_cases reply question u m with
    ⟨e, hknown, h⟩ | ⟨a, hunknown, ha, h⟩ | ⟨hunknown, -, h⟩ <;> rw [h, told]
  · rw [hknown]
  · rw [hunknown, ← hreply, ha]
    rfl
  · rw [hunknown, ← hreply]

/-- What is told of a page is known afterwards. -/
theorem get?_consult_of_told (reply : Nat → Outcome (Option α)) (question : Option Question)
    (hreply : reply m.time = answer u) (htold : shelf.told answer m u = .value e) :
    (shelf.get (shelf.consult reply question u m).2).get? u = some e := by
  rw [← consult_eq_told hreply] at htold
  rcases shelf.consult_cases reply question u m with
    ⟨e', hknown, h⟩ | ⟨a, hunknown, ha, h⟩ | ⟨hunknown, hfails, h⟩ <;> rw [h] at htold ⊢
  · obtain rfl : e' = e := by injection htold
    exact hknown
  · obtain rfl : CacheEntry.ofOption a = e := by injection htold
    rw [shelf.get_set, Cache.get?_insert, if_pos rfl]
  · cases hanswer : reply m.time with
    | value a => exact absurd hanswer (hfails a)
    | failed e' | panicked message =>
      rw [hanswer] at htold
      cases htold

/-- Asking about one page changes nothing of what is told of any. -/
theorem told_consult (hu : Url.parse t = .ok u) (hv : Url.parse t' = .ok v) (hreply : reply m.time = answer u) :
    shelf.told answer (shelf.consult reply question u m).2 v = shelf.told answer m v := by
  rcases shelf.consult_cases reply question u m with
    ⟨e, hknown, h⟩ | ⟨a, hunknown, ha, h⟩ | ⟨hunknown, -, h⟩ <;> rw [h]
  · by_cases htext : v.text = u.text
    · -- It is the page that was asked about, and what its source answered is known now.
      obtain rfl := Url.eq_of_text_eq hv hu htext
      rw [told, told, shelf.get_set, Cache.get?_insert, if_pos rfl, hunknown, ← hreply, ha]
      rfl
    · rw [told, told, shelf.get_set, Cache.get?_insert, if_neg htext]
  · exact told_congr (shelf.get_noting m question)

end Shelf

/-- What is told of pages by a strategy is the same in one memory as in another. -/
def Strategy.TellsTheSame (s : Strategy) (i : Nat) (m m' : Memory) : Prop :=
  match s with
  | .documents d => ∀ t u, Url.parse t = .ok u →
      (Shelf.documents i).told d.answer m' u = (Shelf.documents i).told d.answer m u
  | .cards c => ∀ t u, Url.parse t = .ok u →
      (Shelf.pages i).told c.answer m' u = (Shelf.pages i).told c.answer m u
  | .custom _ => True

/-- A transformer that answers about every page as it would when it is asked first thing, and then remembers
nothing of it. -/
def Transformer.frozen {σ : Type} (t : Transformer σ) (s : σ) : CustomTransformer :=
  { name := t.name
    accepts := .computed fun u => (t.accepts u s).1
    tagName := .computed fun u => t.tagName u (t.accepts u s).2
    properties := .computed fun u => t.properties u (t.accepts u s).2
    children := .computed fun u => t.children u (t.accepts u s).2 }

/-- A strategy decides on a page and renders it in one memory as it does in another, and goes on to do so. -/
structure Strategy.Repeats (s : Strategy) (i : Nat) (u : Url) (m m' : Memory) : Prop where
  accepts : ((s.transformer i).accepts u m').1 = ((s.transformer i).accepts u m).1
  renders : ((s.transformer i).accepts u m).1 = .value true →
    (s.transformer i).render u ((s.transformer i).accepts u m').2 =
      (s.transformer i).render u ((s.transformer i).accepts u m).2
  keeps : s.TellsTheSame i m ((s.transformer i).accepts u m').2

section

variable {i : Nat} {t : String} {u : Url} {m m' m'' : Memory}

/-- A page that is taken is one for which something is found. -/
theorem found_of_map_isFound {α : Type} {x : Outcome (CacheEntry α)}
    (h : x.map CacheEntry.isFound = .value true) : ∃ a, x = .value (.found a) := by
  cases x with
  | value e =>
    cases e with
    | found a => exact ⟨a, rfl⟩
    | absent => cases h
  | failed e => cases h
  | panicked message => cases h

/-- All that a rendering reads from memory is the element of the page. -/
theorem OEmbedDocuments.render_congr {d : OEmbedDocuments} (h : d.element i u m = d.element i u m') :
    (d.transformer i).render u m = (d.transformer i).render u m' := by
  refine Transformer.render_congr ?_ ?_ ?_
  · exact congrArg (fun x : Attempt Element => (x.map Element.tag).toOutcome) h
  · exact congrArg (fun x : Attempt Element => (x.map Element.properties).toOutcome) h
  · exact congrArg (fun x : Attempt Element => (x.map Element.children).toOutcome) h

/-- All that a rendering reads from memory is the preview of the page. -/
theorem LinkCards.render_congr {c : LinkCards} (h : preview i u m = preview i u m') :
    (c.transformer i).render u m = (c.transformer i).render u m' := by
  refine Transformer.render_congr ?_ ?_ ?_
  · exact congrArg (Outcome.bind · fun p => (c.preset.tagName p).toOutcome) h
  · exact congrArg (Outcome.bind · fun p => (c.preset.properties p).toOutcome) h
  · exact congrArg (Outcome.bind · fun p => (c.preset.children p).toOutcome) h

namespace Transformer

/-- The transformer takes a page when something is told of it through a shelf, and renders what is known there. -/
structure ReadsFrom {α : Type} (t : Transformer Memory) (shelf : Shelf α) (answer : Url → Outcome (Option α))
    (u : Url) : Prop where
  accepts : ∀ m, ∃ reply question, reply m.time = answer u ∧ t.accepts u m =
    ((shelf.consult reply question u m).1.map CacheEntry.isFound, (shelf.consult reply question u m).2)
  renders : ∀ a m m', (shelf.get m).get? u = some (.found a) → (shelf.get m').get? u = some (.found a) →
    t.render u m = t.render u m'

namespace ReadsFrom

variable {α : Type} {t : Transformer Memory} {shelf : Shelf α} {answer : Url → Outcome (Option α)} {v : Url}
  {e : CacheEntry α} {text text' : String}

/-- A page is taken when something is told of it. -/
theorem accepts_eq_told (h : t.ReadsFrom shelf answer u) (m : Memory) :
    (t.accepts u m).1 = (shelf.told answer m u).map CacheEntry.isFound := by
  obtain ⟨reply, question, hreply, haccepts⟩ := h.accepts m
  rw [haccepts, Shelf.consult_eq_told hreply]

theorem accepts_eq (h : t.ReadsFrom shelf answer u) (htold : shelf.told answer m' u = shelf.told answer m u) :
    (t.accepts u m').1 = (t.accepts u m).1 := by
  rw [h.accepts_eq_told, h.accepts_eq_told, htold]

/-- What is told of a page is known once the transformer decided on it. -/
theorem get?_of_told (h : t.ReadsFrom shelf answer u) (htold : shelf.told answer m u = .value e) :
    (shelf.get (t.accepts u m).2).get? u = some e := by
  obtain ⟨reply, question, hreply, haccepts⟩ := h.accepts m
  rw [haccepts]
  exact Shelf.get?_consult_of_told reply question hreply htold

/-- A decision on one page changes nothing of what is told of any. -/
theorem told_accepts (h : t.ReadsFrom shelf answer u) (hu : Url.parse text = .ok u)
    (hv : Url.parse text' = .ok v) (m : Memory) :
    shelf.told answer (t.accepts u m).2 v = shelf.told answer m v := by
  obtain ⟨reply, question, hreply, haccepts⟩ := h.accepts m
  rw [haccepts, Shelf.told_consult hu hv hreply]

/-- A page of which the same is told is rendered as the same. -/
theorem render_eq (h : t.ReadsFrom shelf answer u) (htold : shelf.told answer m' u = shelf.told answer m u)
    (htrue : (t.accepts u m).1 = .value true) :
    t.render u (t.accepts u m').2 = t.render u (t.accepts u m).2 := by
  obtain ⟨a, ha⟩ := found_of_map_isFound ((h.accepts_eq_told m).symm.trans htrue)
  exact h.renders a _ _ (h.get?_of_told (htold.trans ha)) (h.get?_of_told ha)

end ReadsFrom

end Transformer

/-- A strategy for documents reads from its cache of documents. -/
theorem OEmbedDocuments.readsFrom {d : OEmbedDocuments} (hfunction : (Strategy.documents d).IsFunction)
    (i : Nat) (u : Url) : (d.transformer i).ReadsFrom (Shelf.documents i) d.answer u where
  accepts m := ⟨_, _, reply_eq_answer hfunction u m.time, d.accepts_eq i u m⟩
  renders _ _ _ hknown hknown' :=
    render_congr ((element_of_known hknown).trans (element_of_known hknown').symm)

/-- A strategy for cards reads from its cache of pages. -/
theorem LinkCards.readsFrom {c : LinkCards} (hfunction : (Strategy.cards c).IsFunction) (i : Nat) (u : Url) :
    (c.transformer i).ReadsFrom (Shelf.pages i) c.answer u where
  accepts m := ⟨_, _, hfunction m.time 0 u, c.accepts_eq i u m⟩
  renders _ _ _ hknown hknown' :=
    render_congr ((preview_of_known hknown).trans (preview_of_known hknown').symm)

/-- Where the same is told of pages, a strategy does the same, and the same is told afterwards. -/
theorem Strategy.repeats {s : Strategy} (hfunction : s.IsFunction) (hu : Url.parse t = .ok u)
    (h : s.TellsTheSame i m m') : s.Repeats i u m m' := by
  cases s with
  | documents d =>
    have hreads := OEmbedDocuments.readsFrom hfunction i u
    exact ⟨hreads.accepts_eq (h t u hu), hreads.render_eq (h t u hu),
      fun t' v hv => (hreads.told_accepts hu hv m').trans (h t' v hv)⟩
  | cards c =>
    have hreads := LinkCards.readsFrom hfunction i u
    exact ⟨hreads.accepts_eq (h t u hu), hreads.render_eq (h t u hu),
      fun t' v hv => (hreads.told_accepts hu hv m').trans (h t' v hv)⟩
  | custom c => exact ⟨rfl, fun _ => rfl, trivial⟩

/-- Memory that stays as it is tells the same. -/
theorem Strategy.tellsTheSame_self (s : Strategy) (i : Nat) (m : Memory) : s.TellsTheSame i m m := by
  cases s with
  | documents d => exact fun _ _ _ => rfl
  | cards c => exact fun _ _ _ => rfl
  | custom c => trivial

/-- Only the caches of the strategy itself count. -/
theorem Strategy.TellsTheSame.of_apart {s : Strategy} (h : s.TellsTheSame i m m')
    (hdocuments : m''.documents i = m'.documents i) (hpages : m''.pages i = m'.pages i) :
    s.TellsTheSame i m m'' := by
  cases s with
  | documents d => exact fun t u hu => (Shelf.told_congr hdocuments).trans (h t u hu)
  | cards c => exact fun t u hu => (Shelf.told_congr hpages).trans (h t u hu)
  | custom c => trivial

end

/-! ## One outcome for each destination -/

section

variable {strategies : List Strategy} {m : Memory}

/-- What is told of pages by any of some strategies is the same in one memory as in another. -/
def TellTheSame (strategies : List Strategy) (m m' : Memory) : Prop :=
  ∀ i : Fin strategies.length, (strategies.get i).TellsTheSame i m m'

/-- As long as the same is told of pages, a strategy does what it would do first thing. -/
theorem Strategy.follows_frozen (i : Fin strategies.length) (hfunction : (strategies.get i).IsFunction)
    {t : String} {u : Url} (hu : Url.parse t = .ok u) :
    Transformer.Follows (TellTheSame strategies m) u ((strategies.get i).transformer i)
      (((strategies.get i).transformer i).frozen m) where
  name := rfl
  accepts m' hm := (Strategy.repeats hfunction hu (hm i)).accepts
  renders m' hm htrue := (Strategy.repeats hfunction hu (hm i)).renders htrue
  keeps m' hm j := by
    by_cases hij : j = i
    · exact hij ▸ (Strategy.repeats hfunction hu (hm i)).keeps
    · have hapart := Strategy.accepts_apart (strategies.get i) i u m' fun hval => hij (Fin.ext hval)
      exact (hm j).of_apart hapart.1 hapart.2

/-- As long as the same is told of pages, the report of a link is the same. -/
theorem Embedder.isUniform_frozen {e : Embedder} (hfunction : ∀ s ∈ e.strategies, s.IsFunction)
    (file : Option String) (m : Memory) :
    IsUniform e.transformers file (TellTheSame e.strategies m)
      (settleAnchor file (e.transformers.map fun t => t.frozen m)) := by
  intro a m' hm
  refine resolveAnchor_of_follows (fun t u hu => ?_) hm
  unfold Embedder.transformers
  rw [List.map_map, List.forall₂_map_left_iff, List.forall₂_map_right_iff, List.forall₂_same]
  exact fun i _ => Strategy.follows_frozen i (hfunction _ (List.get_mem e.strategies i)) hu

end

/-- What transformers make of a page, whatever link leads to it: the parts of an embed, if one of them renders it,
and who failed before, with which error. -/
structure PageOutcome where
  rendering : Option Rendering
  failures : List (String × EmbedError)

/-- What capabilities make of a page. -/
def pageOutcome (u : Url) : List CustomTransformer → PageOutcome
  | [] => ⟨none, []⟩
  | c :: cs =>
    match c.verdict u with
    | .refuses => pageOutcome u cs
    | .fails e => { pageOutcome u cs with failures := (c.name, e) :: (pageOutcome u cs).failures }
    | .renders x => ⟨some x, []⟩

/-- What capabilities make of a destination, which may not be that of a page. -/
def destinationOutcome (cs : List CustomTransformer) (destination : String) : PageOutcome :=
  match Url.parse destination with
  | .ok u => pageOutcome u cs
  | .error _ => ⟨none, []⟩

namespace PageOutcome

/-- What a link says that leads to the page: the embed is made from what the link says itself, and put over any
earlier one. -/
def anchor (o : PageOutcome) (a : Anchor) : Anchor :=
  match o.rendering with
  | some x => { a with embed := some ⟨x.tag, a.properties.merge x.properties, x.children⟩ }
  | none => a

/-- The diagnostics for a link that leads to the page. -/
def diagnostics (o : PageOutcome) (file : Option String) (a : Anchor) : List Diagnostic :=
  o.failures.map fun f => .embedFailure f.1 a.url file a.position f.2

/-- An outcome writes the embed of a link and nothing else. -/
theorem anchor_eq_embed (o : PageOutcome) (a : Anchor) : o.anchor a = { a with embed := (o.anchor a).embed } := by
  unfold anchor
  split <;> rfl

theorem anchor_anchor (o : PageOutcome) (a : Anchor) : o.anchor (o.anchor a) = o.anchor a := by
  unfold anchor
  split <;> rfl

/-- Diagnostics say nothing of embeds. -/
theorem diagnostics_anchor (o o' : PageOutcome) (file : Option String) (a : Anchor) :
    o.diagnostics file (o'.anchor a) = o.diagnostics file a := by
  rw [anchor_eq_embed o' a]
  rfl

end PageOutcome

/-- Verdicts settle a link as the outcome of its page says. -/
theorem settle_eq (file : Option String) (a : Anchor) (u : Url) (cs : List CustomTransformer) :
    settle file a u cs = ⟨(pageOutcome u cs).anchor a, (pageOutcome u cs).diagnostics file a⟩ := by
  induction cs with
  | nil => rfl
  | cons c cs ih =>
    rw [settle, pageOutcome]
    cases c.verdict u with
    | refuses => exact ih
    | fails e =>
      simp only [ih]
      rfl
    | renders x => rfl

/-- The same for a link whose destination is still to be read. -/
theorem settleAnchor_eq (file : Option String) (cs : List CustomTransformer) (a : Anchor) :
    settleAnchor file cs a =
      ⟨(destinationOutcome cs a.url).anchor a, (destinationOutcome cs a.url).diagnostics file a⟩ := by
  unfold settleAnchor destinationOutcome
  cases Url.parse a.url with
  | ok u => exact settle_eq file a u cs
  | error e => rfl

/-! ## Documents whose links have their outcomes -/

namespace Document

variable {f : Anchor → Anchor}

/-- Changes of embeds make a document that differs in embeds. -/
theorem differInEmbeds_settled (d : Document) (hembed : ∀ a, f a = { a with embed := (f a).embed }) :
    d.DifferInEmbeds (d.settled f) d.barePaths where
  position := d.position_settled f
  apart p hp := by rw [d.shell?_settled, if_neg hp]
  links p hp := by
    obtain ⟨a, -, hbefore, hafter⟩ := link_of_mem_barePaths hp f
    exact ⟨a, f a, hbefore, hafter, hembed a⟩

/-- The links that may be embedded are the same afterwards. -/
theorem barePaths_settled (d : Document) (hembed : ∀ a, f a = { a with embed := (f a).embed }) :
    (d.settled f).barePaths = d.barePaths :=
  (d.differInEmbeds_settled hembed).barePaths_eq d.nodup_barePaths

/-- Changes that make no difference the second time make none to the document. -/
theorem settled_settled (d : Document) (hembed : ∀ a, f a = { a with embed := (f a).embed })
    (hagain : ∀ a, f (f a) = f a) : (d.settled f).settled f = d.settled f := by
  refine eq_of_shell? ((d.settled f).position_settled f) fun p => ?_
  rw [(d.settled f).shell?_settled, d.barePaths_settled hembed]
  split
  next hp =>
    obtain ⟨a, -, -, hafter⟩ := link_of_mem_barePaths hp f
    rw [hafter]
    exact congrArg (fun b => some (Node.link b [])) (hagain a)
  next => rfl

/-- The diagnostics for the links that may be embedded, in their order, with an outcome for each destination. -/
def messages (d : Document) (outcome : String → PageOutcome) (file : Option String) : List Diagnostic :=
  d.barePaths.flatMap fun p => ((d.anchor? p).map fun a => (outcome a.url).diagnostics file a).getD []

/-- What every link says by the outcome for its destination. -/
def concluded (d : Document) (outcome : String → PageOutcome) : Document :=
  d.settled fun a => (outcome a.url).anchor a

variable (outcome : String → PageOutcome)

/-- The links that may be embedded are the same with their outcomes. -/
theorem barePaths_concluded (d : Document) : (d.concluded outcome).barePaths = d.barePaths :=
  d.barePaths_settled fun a => (outcome a.url).anchor_eq_embed a

/-- Each of them becomes what its outcome says, and nothing else changes. -/
theorem becomes_concluded (d : Document) :
    d.Becomes d.barePaths (fun _ a b => b = (outcome a.url).anchor a) (d.concluded outcome) where
  position := d.position_settled _
  apart p hp := by rw [concluded, d.shell?_settled, if_neg hp]
  links p hp := by
    obtain ⟨a, -, hbefore, hafter⟩ := link_of_mem_barePaths hp fun a => (outcome a.url).anchor a
    exact ⟨a, _, hbefore, hafter, rfl⟩

/-- With an outcome for each destination, nothing changes the second time. -/
theorem concluded_concluded (d : Document) : (d.concluded outcome).concluded outcome = d.concluded outcome := by
  refine d.settled_settled (fun a => (outcome a.url).anchor_eq_embed a) fun a => ?_
  have hurl : ((outcome a.url).anchor a).url = a.url := by rw [PageOutcome.anchor_eq_embed]
  simp only [hurl, PageOutcome.anchor_anchor]

/-- The embeds that are there make no difference for the diagnostics. -/
theorem messages_concluded (d : Document) (file : Option String) :
    (d.concluded outcome).messages outcome file = d.messages outcome file := by
  unfold messages
  rw [barePaths_concluded]
  refine List.flatMap_congr fun p hp => ?_
  obtain ⟨a, ha, -, hafter⟩ := link_of_mem_barePaths hp fun a => (outcome a.url).anchor a
  have hanchor : (d.concluded outcome).anchor? p = some ((outcome a.url).anchor a) := by
    rw [anchor?, concluded, hafter]
    rfl
  have hurl : ((outcome a.url).anchor a).url = a.url := by rw [PageOutcome.anchor_eq_embed]
  rw [hanchor, ha]
  simp only [Option.map_some, hurl, PageOutcome.diagnostics_anchor]

end Document

section

variable {strategies : List Strategy} {ρ : Type} {m m' : Memory}

/-- What the strategies of a job make of destinations when they are asked first thing. -/
def Job.outcome (job : Job strategies.length ρ) (m : Memory) : String → PageOutcome :=
  destinationOutcome (job.embedder.transformers.map fun t => t.frozen m)

/-- As long as the same is told of pages, a document gets the outcomes of its links. -/
theorem Job.run_of_tellTheSame (hfunction : ∀ s ∈ strategies, s.IsFunction) (job : Job strategies.length ρ)
    (hm : TellTheSame strategies m m') :
    (job.run m').document = job.document.concluded (job.outcome m) ∧
      (job.run m').receiver =
        (job.document.messages (job.outcome m) (job.sink.path? job.receiver)).foldl job.sink.receive job.receiver ∧
      TellTheSame strategies m (job.run m').memory := by
  have huniform := job.embedder.isUniform_frozen hfunction (job.sink.path? job.receiver) m
  obtain ⟨hdocument, hreceiver, hmemory⟩ :=
    job.document.resolveWith_of_uniform job.sink huniform job.complete hm
  simp only [settleAnchor_eq] at hdocument hreceiver
  exact ⟨hdocument, hreceiver, hmemory⟩

/-! ## Questions -/

/-- Every question of a chain of decisions was asked for one of them. -/
theorem asked_of_chained {first last : Memory} {calls : List (Call (Fin strategies.length) Memory)}
    (hchain : Chained first calls last) (hgenuine : ∀ c ∈ calls, c.IsGenuine (numbered strategies)) :
    ∃ questions, last.asked = questions ++ first.asked ∧ ∀ q ∈ questions, ∃ c ∈ calls,
      c.number = q.transformer ∧ c.url = q.url ∧ c.after ≠ c.before := by
  induction calls generalizing first with
  | nil =>
    obtain rfl : last = first := hchain
    exact ⟨[], rfl, List.forall_mem_nil _⟩
  | cons c calls ih =>
    obtain ⟨rfl, hrest⟩ := hchain
    obtain ⟨hc, hcalls⟩ := List.forall_mem_cons.mp hgenuine
    obtain ⟨questions, hlast, hquestions⟩ := ih hrest hcalls
    have hmore : ∀ q ∈ questions, ∃ c' ∈ c :: calls, c'.number = q.transformer ∧ c'.url = q.url ∧
        c'.after ≠ c'.before := by
      intro q hq
      obtain ⟨c', hc', hasked⟩ := hquestions q hq
      exact ⟨c', List.mem_cons_of_mem c hc', hasked⟩
    rcases (Call.isLawful_of_genuine hc).once with hsame | ⟨provider, reply, -, -, hasked⟩
    · exact ⟨questions, by rw [hlast, hsame], hmore⟩
    · refine ⟨questions ++ [⟨c.number, provider, c.url⟩], by rw [hlast, hasked]; simp, ?_⟩
      intro q hq
      rcases List.mem_append.mp hq with hq | hq
      · exact hmore q hq
      · obtain rfl := List.mem_singleton.mp hq
        refine ⟨c, List.mem_cons_self, rfl, rfl, fun hsame => ?_⟩
        rw [hsame] at hasked
        -- A question was added, so something changed.
        exact List.cons_ne_self _ _ hasked.symm

/-- Work that follows other work asks nobody about a page that a strategy decided on before. -/
theorem Job.questions_of_second (job again : Job strategies.length ρ) (m : Memory) :
    ∃ questions, (again.run (job.run m).memory).memory.asked = questions ++ (job.run m).memory.asked ∧
      ∀ q ∈ questions, ∀ c ∈ (job.watch m).memory.2, c.number = q.transformer → c.url.text = q.url.text →
        ∀ b, c.answer ≠ .value b := by
  obtain ⟨-, -, hchain, hgenuine, -⟩ := again.accounted (job.run m).memory
  obtain ⟨questions, hasked, hquestions⟩ := asked_of_chained hchain hgenuine
  refine ⟨questions, hasked, fun q hq c hc hnumber htext b hb => ?_⟩
  obtain ⟨later, hlater, hnumber', hurl, hchanged⟩ := hquestions q hq
  have hsticks : c.Sticks later := by
    have hpairwise := pairwise_sticks (chained_history [job, again] m) (genuine_history [job, again] m)
    refine (List.pairwise_append.mp hpairwise).2.2 c hc later ?_
    exact List.mem_append_left _ hlater
  have hsame : later.number = c.number := Fin.ext (hnumber'.trans hnumber.symm)
  -- Only a strategy with a cache changes what is remembered.
  have hcached : (strategies.get c.number).IsCached := by
    by_contra hcustom
    exact hchanged (Call.eq_of_custom (hgenuine later hlater) (hsame ▸ hcustom))
  exact hchanged (hsticks hcached hsame (by rw [hurl, htext]) b hb).2

/-- When all sources answer by the URL alone, a document that was embedded is not changed by embedding it once
more, whatever was remembered at first. Each destination has an outcome, from which both the embeds and the
diagnostics come: an embed is made from what its link says itself, and the second time the diagnostics are those
of the first. Then nobody is asked about a page that was decided on the first time. -/
theorem run_again_changes_nothing (hfunction : ∀ s ∈ strategies, s.IsFunction)
    (job again : Job strategies.length ρ) (m : Memory) (hdocument : again.document = (job.run m).document)
    (horder : again.order = job.order) :
    let first := job.run m
    let second := again.run first.memory
    ∃ outcome : String → PageOutcome,
      job.document.Becomes job.document.barePaths (fun _ a b => b = (outcome a.url).anchor a) first.document ∧
      first.receiver =
        (job.document.messages outcome (job.sink.path? job.receiver)).foldl job.sink.receive job.receiver ∧
      second.document = first.document ∧
      second.receiver =
        (job.document.messages outcome (again.sink.path? again.receiver)).foldl again.sink.receive again.receiver ∧
      ∃ questions, second.memory.asked = questions ++ first.memory.asked ∧
        ∀ q ∈ questions, ∀ c ∈ (job.watch m).memory.2, c.number = q.transformer → c.url.text = q.url.text →
          ∀ b, c.answer ≠ .value b := by
  intro first second
  obtain ⟨hfirst, hreceiver, htold⟩ :=
    job.run_of_tellTheSame hfunction fun i => Strategy.tellsTheSame_self _ i m
  obtain ⟨hsecond, hreceiver', -⟩ := again.run_of_tellTheSame hfunction htold
  have houtcome : again.outcome m = job.outcome m := by
    unfold Job.outcome Job.embedder
    rw [horder]
  rw [houtcome, hdocument, hfirst] at hsecond hreceiver'
  refine ⟨job.outcome m, ?_, hreceiver, ?_, ?_, job.questions_of_second again m⟩
  · exact hfirst ▸ job.document.becomes_concluded (job.outcome m)
  · exact (hsecond.trans (job.document.concluded_concluded (job.outcome m))).trans hfirst.symm
  · rwa [job.document.messages_concluded] at hreceiver'

/-- The same work for the document that came of it, with its links in their order. -/
def Job.again (job : Job strategies.length ρ) (m : Memory) : Job strategies.length ρ :=
  { job with
    document := (job.run m).document
    links := (job.run m).document.barePaths
    complete := List.Perm.refl _ }

theorem Job.document_again (job : Job strategies.length ρ) (m : Memory) :
    (job.again m).document = (job.run m).document := rfl

/-- A source that breaks off and one that knows every page: two links to one page, the second of them in a
quotation, are embedded twice. -/
theorem run_again_changes_nothing_quoted :
    let strategies : List Strategy :=
      [.documents { fetcher := .ofUrl fun _ => .panicked none },
        .cards
          { fetcher := .ofUrl fun u => .value (some { title := some u.text }), preset := CardStyle.preset {} }]
    let document : Document :=
      ⟨[.paragraph none [.autolink "http://a.b" none],
        .generic { kind := "blockquote" } [.paragraph none [.autolink "http://a.b" none]]], none⟩
    let job : Job strategies.length (List Diagnostic) :=
      { order := [0, 1]
        document
        links := [[1, 0, 0], [0, 0]]
        complete := by decide
        sink := .list
        receiver := [] }
    (∀ s ∈ strategies, s.IsFunction) ∧ (job.again {}).document = (job.run {}).document ∧
      (job.again {}).order = job.order ∧
      ((job.again {}).run (job.run {}).memory).document = (job.run {}).document := by
  intro strategies document job
  have hfunction : ∀ s ∈ strategies, s.IsFunction := by
    refine List.forall_mem_cons.mpr ⟨⟨fun _ _ _ => rfl, List.forall_mem_nil _⟩, ?_⟩
    exact List.forall_mem_cons.mpr ⟨fun _ _ _ => rfl, List.forall_mem_nil _⟩
  obtain ⟨outcome, -, -, hsame, -⟩ :=
    run_again_changes_nothing hfunction job (job.again {}) {} (job.document_again {}) rfl
  exact ⟨hfunction, job.document_again {}, rfl, hsame⟩

end

end LinkEmbed
