import LinkEmbed.Proofs.Engine.Frame
import LinkEmbed.Proofs.Session.FirstAnswer

/-!
# What is taken can be rendered

A strategy with a cache takes a page only when something is found for it, and what was found is what the parts of
the embed are made of, whatever the caches held before. So a card is never asked for a page of which nothing is known,
and no oEmbed document is replaced by an empty block.

* `Shelf.finds_of_consult`, `Shelf.fails_of_consult` — what was found is known afterwards, and only sources fail.
* `LinkCards.parts_of_known`, `OEmbedDocuments.parts_of_known` — the parts of the embed of a page that is known.
* `rendersCard_of_accepted`, `rendersDocument_of_accepted` — so all parts of a page that is taken are there.
* `accepted_pages_are_rendered` — each link shows what its transformer made of the page, and each diagnostic tells of an
  error that a source raised.
-/

namespace LinkEmbed

/-! ## Finding something through a cache -/

namespace Shelf

variable {α : Type} {shelf : Shelf α} {u : Url} {m : Memory} {reply : Nat → Outcome (Option α)}
  {question : Option Question} {e : EmbedError}

/-- Something is found for a page: it is known, or nothing is known and the source answers with it. -/
def Finds (shelf : Shelf α) (reply : Nat → Outcome (Option α)) (u : Url) (m : Memory) (a : α) : Prop :=
  (shelf.get m).get? u = some (.found a) ∨ ((shelf.get m).get? u = none ∧ reply m.time = .value (some a))

/-- What is found is known afterwards. -/
theorem finds_of_consult (h : (shelf.consult reply question u m).1.map CacheEntry.isFound = .value true) :
    ∃ a, shelf.Finds reply u m a ∧
      (shelf.get (shelf.consult reply question u m).2).get? u = some (.found a) := by
  rcases shelf.consult_cases reply question u m with
    ⟨e, hknown, hconsult⟩ | ⟨answer, hunknown, hanswer, hconsult⟩ | ⟨-, hfails, hconsult⟩ <;>
    rw [hconsult] at h ⊢
  · cases e with
    | found a => exact ⟨a, Or.inl hknown, hknown⟩
    | absent => cases h
  · cases answer with
    | some a =>
      refine ⟨a, Or.inr ⟨hunknown, hanswer⟩, ?_⟩
      rw [shelf.get_set, Cache.get?_insert, if_pos rfl]
      rfl
    | none => cases h
  · -- A source that fails finds nothing.
    cases hreply : reply m.time with
    | value a => exact absurd hreply (hfails a)
    | failed e | panicked message =>
      rw [hreply] at h
      cases h

/-- Only the source can fail. -/
theorem fails_of_consult
    (h : ((shelf.consult reply question u m).1.map CacheEntry.isFound).guarded = .error e) :
    (reply m.time).guarded = .error e ∧ (shelf.consult reply question u m).2 = m.noting question := by
  rcases shelf.consult_cases reply question u m with
    ⟨entry, -, hconsult⟩ | ⟨answer, -, -, hconsult⟩ | ⟨-, hfails, hconsult⟩ <;>
    rw [hconsult] at h ⊢
  · cases h
  · cases h
  · refine ⟨?_, rfl⟩
    cases hreply : reply m.time with
    | value a => exact absurd hreply (hfails a)
    | failed e' | panicked message =>
      simpa [hreply, Outcome.map, Outcome.bind, Outcome.guarded] using h

end Shelf

/-- A rendering is there when its three parts are. -/
theorem Transformer.render_of_parts {σ : Type} {t : Transformer σ} {u : Url} {s : σ} {x : Rendering}
    (htag : t.tagName u s = .value x.tag) (hproperties : t.properties u s = .value x.properties)
    (hchildren : t.children u s = .value x.children) : t.render u s = .ok x := by
  unfold render
  rw [htag, hproperties, hchildren]
  rfl

namespace LinkCards

variable {cards : LinkCards} {style : CardStyle} {i : Nat} {u : Url} {m : Memory} {page : Metadata}

/-- Something is known of every page that is taken. -/
theorem known_of_accepts (h : ((cards.transformer i).accepts u m).1 = .value true) :
    ∃ page, (Shelf.pages i).Finds (cards.fetcher · u) u m page ∧
      (((cards.transformer i).accepts u m).2.pages i).get? u = some (.found page) := by
  rw [cards.accepts_eq] at h ⊢
  exact Shelf.finds_of_consult h

theorem preview_of_known (h : (m.pages i).get? u = some (.found page)) :
    preview i u m = .value (.ofMetadata u page) := by
  rw [preview, h]
  rfl

/-- The parts of the card of a page that is known. -/
theorem parts_of_known (h : (m.pages i).get? u = some (.found page)) (hpreset : cards.preset = style.preset) :
    (cards.transformer i).tagName u m = .value "a" ∧
      (cards.transformer i).properties u m = .value (style.properties (.ofMetadata u page)) ∧
      (cards.transformer i).children u m = (style.children (.ofMetadata u page)).toOutcome := by
  simp only [transformer, preview_of_known h, hpreset, CardStyle.preset, Outcome.bind, Attempt.toOutcome,
    and_self]

end LinkCards

namespace OEmbedDocuments

variable {d : OEmbedDocuments} {i : Nat} {u : Url} {m : Memory} {document : OEmbed} {x : Element}

/-- A document is known of every page that is taken. -/
theorem known_of_accepts (h : (d.accepts i u m).1 = .value true) :
    ∃ document, (Shelf.documents i).Finds (d.reply u) u m document ∧
      ((d.accepts i u m).2.documents i).get? u = some (.found document) := by
  rw [d.accepts_eq] at h ⊢
  exact Shelf.finds_of_consult h

theorem element_of_known (h : (m.documents i).get? u = some (.found document)) :
    d.element i u m = d.preset.element u document := by
  rw [element, h]
  rfl

/-- The parts of the embed of a document that is known are those of one element. -/
theorem parts_of_known (h : (m.documents i).get? u = some (.found document))
    (hx : d.preset.element u document = .value x) :
    (d.transformer i).tagName u m = .value x.tag ∧ (d.transformer i).properties u m = .value x.properties ∧
      (d.transformer i).children u m = .value x.children := by
  simp only [transformer, element_of_known h, hx, Attempt.map, Attempt.bind, Attempt.toOutcome, and_self]

end OEmbedDocuments

/-! ## Decisions that take a page -/

section

variable {strategies : List Strategy} {ρ : Type}

namespace Call

variable {c : Call (Fin strategies.length) Memory} {a b : Anchor} {cards : LinkCards} {style : CardStyle}
  {d : OEmbedDocuments} {e : EmbedError}

/-- The error of a decision is one that the fetcher raised when it was asked for this decision. -/
def IsRaised (c : Call (Fin strategies.length) Memory) (fetcher : Fetcher Metadata) (e : EmbedError) : Prop :=
  (fetcher c.before.time c.url).guarded = .error e ∧
    c.after.asked = ⟨c.number, none, c.url⟩ :: c.before.asked

/-- A decision for a link `a` has it rendered as the card of a page: the page was found, its preview is there,
all parts of the card are those for this preview, and the link is `b` with them. -/
structure RendersCard (c : Call (Fin strategies.length) Memory) (cards : LinkCards) (style : CardStyle)
    (a b : Anchor) (page : Metadata) (content : List Markup) : Prop where
  found : (Shelf.pages c.number).Finds (cards.fetcher · c.url) c.url c.before page
  preview : LinkCards.preview c.number c.url c.after = .value (.ofMetadata c.url page)
  card : style.children (.ofMetadata c.url page) = .value content
  tagName : (cards.transformer c.number).tagName c.url c.after = .value "a"
  properties : (cards.transformer c.number).properties c.url c.after =
    .value (style.properties (.ofMetadata c.url page))
  children : (cards.transformer c.number).children c.url c.after = .value content
  shown : b = { a with
    embed := some ⟨"a", a.properties.merge (style.properties (.ofMetadata c.url page)), content⟩ }

/-- A decision for a link `a` has it rendered as an oEmbed document: the document was found and is known, all
parts of the embed are those of its element, and the link is `b` with them. -/
structure RendersDocument (c : Call (Fin strategies.length) Memory) (d : OEmbedDocuments) (a b : Anchor)
    (document : OEmbed) (x : Element) : Prop where
  found : (Shelf.documents c.number).Finds (d.reply c.url) c.url c.before document
  known : (c.after.documents c.number).get? c.url = some (.found document)
  element : d.preset.element c.url document = .value x
  tagName : (d.transformer c.number).tagName c.url c.after = .value x.tag
  properties : (d.transformer c.number).properties c.url c.after = .value x.properties
  children : (d.transformer c.number).children c.url c.after = .value x.children
  shown : b = { a with embed := some ⟨x.tag, a.properties.merge x.properties, x.children⟩ }

/-- What becomes of a link `a` by a decision to show its page as a card, for icons that always have a text: only
errors of the fetcher are reported, and a page that is taken is rendered. -/
def ShowsCard (c : Call (Fin strategies.length) Memory) (file : Option String) (a b : Anchor) : Prop :=
  ∀ cards style, strategies.get c.number = .cards cards → cards.preset = style.preset →
    (∀ preview, ∃ alt, style.faviconAlt preview = .value alt) →
    (∀ message, c.diagnostic? (numbered strategies) file a = some message → ∃ e, c.IsRaised cards.fetcher e ∧
      message.Tells LinkCards.name a.url file a.position e) ∧
    (c.answer = .value true → ∃ page content, c.RendersCard cards style a b page content)

/-- What becomes of a link `a` by a decision to show its page as an oEmbed document, for renderers that do not
break off: a page that is taken is rendered. -/
def ShowsDocument (c : Call (Fin strategies.length) Memory) (a b : Anchor) : Prop :=
  ∀ d, strategies.get c.number = .documents d → (∀ u document, ∃ x, d.preset.element u document = .value x) →
    c.answer = .value true → ∃ document x, c.RendersDocument d a b document x

section

variable {t : Transformer Memory}

/-- A decision only fails where the page is not taken, if all that are taken are rendered. -/
theorem guarded_of_failure? (hrenders : c.answer = .value true → ∃ x, t.render c.url c.after = .ok x)
    (he : c.failure? t = some e) : c.answer.guarded = .error e := by
  unfold failure? at he
  split at he
  next e' hanswer => rw [hanswer, Option.some.inj he]
  next => cases he
  next hanswer =>
    obtain ⟨x, hx⟩ := hrenders (Outcome.guarded_eq_ok hanswer)
    rw [hx] at he
    cases he

end

section

variable (hc : c.IsGenuine (numbered strategies)) (hcards : strategies.get c.number = .cards cards)
include hc hcards

/-- What was written down is a decision of the strategy for cards. -/
theorem accepts_of_cards : (cards.transformer c.number).accepts c.url c.before = (c.answer, c.after) := by
  have haccepts := hc.accepts
  rwa [hcards] at haccepts

/-- A decision fails with the error that the fetcher raised. -/
theorem isRaised_of_guarded (he : c.answer.guarded = .error e) : c.IsRaised cards.fetcher e := by
  have haccepts := (accepts_of_cards hc hcards).symm.trans (cards.accepts_eq c.number c.url c.before)
  obtain ⟨hanswer, hafter⟩ := Prod.mk.inj haccepts
  rw [hanswer] at he
  obtain ⟨hreply, hnoting⟩ := Shelf.fails_of_consult he
  refine ⟨hreply, ?_⟩
  rw [hafter, hnoting]
  rfl

/-- The card of a page that is taken. -/
theorem rendersCard_of_accepted (hpreset : cards.preset = style.preset)
    (halt : ∀ preview, ∃ alt, style.faviconAlt preview = .value alt) (htrue : c.answer = .value true) :
    ∃ x page content, (cards.transformer c.number).render c.url c.after = .ok x ∧
      c.RendersCard cards style a (a.showing x) page content := by
  have haccepts := accepts_of_cards hc hcards
  obtain ⟨page, hfound, hknown⟩ := LinkCards.known_of_accepts (by rw [haccepts]; exact htrue)
  rw [haccepts] at hknown
  obtain ⟨htag, hproperties, hchildren⟩ := LinkCards.parts_of_known hknown hpreset
  obtain ⟨alt, halt⟩ := halt (.ofMetadata c.url page)
  have hcard : style.children (.ofMetadata c.url page) = .value (style.content (.ofMetadata c.url page) alt) := by
    rw [CardStyle.children, halt]
    rfl
  rw [hcard] at hchildren
  exact ⟨⟨"a", _, _⟩, page, _, Transformer.render_of_parts htag hproperties hchildren, hfound,
    LinkCards.preview_of_known hknown, hcard, htag, hproperties, hchildren, rfl⟩

end

/-- The embed of a document that is taken. -/
theorem rendersDocument_of_accepted (hc : c.IsGenuine (numbered strategies))
    (hd : strategies.get c.number = .documents d)
    (helement : ∀ u document, ∃ x, d.preset.element u document = .value x) (htrue : c.answer = .value true) :
    ∃ x document y, (d.transformer c.number).render c.url c.after = .ok x ∧
      c.RendersDocument d a (a.showing x) document y := by
  have haccepts : d.accepts c.number c.url c.before = (c.answer, c.after) := by
    have haccepts := hc.accepts
    rwa [hd] at haccepts
  obtain ⟨document, hfound, hknown⟩ := OEmbedDocuments.known_of_accepts (by rw [haccepts]; exact htrue)
  rw [haccepts] at hknown
  obtain ⟨y, hy⟩ := helement c.url document
  obtain ⟨htag, hproperties, hchildren⟩ := OEmbedDocuments.parts_of_known hknown hy
  exact ⟨⟨y.tag, y.properties, y.children⟩, document, y,
    Transformer.render_of_parts htag hproperties hchildren, hfound, hknown, hy, htag, hproperties, hchildren, rfl⟩

/-- A link shows the card that a decision for it renders. -/
theorem showsCard {calls : List (Call (Fin strategies.length) Memory)} {file : Option String}
    (hshows : Shows (numbered strategies) a calls b) (hmem : c ∈ calls) (hc : c.IsGenuine (numbered strategies)) :
    c.ShowsCard file a b := by
  intro cards style hcards hpreset halt
  have hnumbered : numbered strategies c.number = cards.transformer c.number := by
    unfold numbered
    rw [hcards]
    rfl
  have hrendered := rendersCard_of_accepted (a := a) hc hcards hpreset halt
  -- A decision for a link is never taken back by the rendering.
  have hrenders : c.answer = .value true → ∃ x, (cards.transformer c.number).render c.url c.after = .ok x := by
    intro htrue
    obtain ⟨x, -, -, hx, -⟩ := hrendered htrue
    exact ⟨x, hx⟩
  constructor
  · intro message hmessage
    obtain ⟨e, he, rfl⟩ := Option.map_eq_some_iff.mp hmessage
    rw [hnumbered] at he
    refine ⟨e, isRaised_of_guarded hc hcards (guarded_of_failure? hrenders he), ?_⟩
    rw [hnumbered]
    exact Diagnostic.tells_embedFailure LinkCards.name a.url file a.position e
  · intro htrue
    obtain ⟨x, page, content, hx, hcard⟩ := hrendered htrue
    refine ⟨page, content, ?_⟩
    rwa [hshows.eq_of_rendering hmem (by rw [hnumbered]; exact rendering?_of_rendered (congrArg Outcome.guarded htrue) hx)]

/-- A link shows the document that a decision for it renders. -/
theorem showsDocument {calls : List (Call (Fin strategies.length) Memory)}
    (hshows : Shows (numbered strategies) a calls b) (hmem : c ∈ calls) (hc : c.IsGenuine (numbered strategies)) :
    c.ShowsDocument a b := by
  intro d hd helement htrue
  obtain ⟨x, document, y, hx, hdocument⟩ := rendersDocument_of_accepted (a := a) hc hd helement htrue
  have hnumbered : numbered strategies c.number = d.transformer c.number := by
    unfold numbered
    rw [hd]
    rfl
  refine ⟨document, y, ?_⟩
  rwa [hshows.eq_of_rendering hmem (by rw [hnumbered]; exact rendering?_of_rendered (congrArg Outcome.guarded htrue) hx)]

end Call

/-- Whatever was remembered before and whatever sources answer, the decisions for the links of a document account
for it, and a page that is taken is rendered: as the card of what was found, or as the document that was found.
Strategies of cards report nothing but the errors of their fetcher. -/
theorem accepted_pages_are_rendered (job : Job strategies.length ρ) (m : Memory) :
    ∃ calls, job.IsAccounted m calls ∧
      job.document.Becomes job.links (fun p a b => ∀ c ∈ calls p,
        c.ShowsCard (job.sink.path? job.receiver) a b ∧ c.ShowsDocument a b) (job.run m).document := by
  obtain ⟨calls, haccounted, -, hgenuine, hbecomes⟩ := job.accounted m
  refine ⟨calls, haccounted, hbecomes.imp fun p hp a b hshows c hc => ?_⟩
  have hmem : c ∈ (job.watch m).memory.2 := by
    rw [haccounted.memory]
    exact List.mem_flatMap.mpr ⟨p, hp, hc⟩
  exact ⟨Call.showsCard hshows hc (hgenuine c hmem), Call.showsDocument hshows hc (hgenuine c hmem)⟩

end

end LinkEmbed
