import LinkEmbed.Config
import LinkEmbed.Http.Fetcher
import LinkEmbed.Proofs.Session.Memoryless

/-!
# The usual embedder over a network

What the embedder of the usual settings makes of a link when pages come from a network, whatever the network
is: a function from URLs to texts or errors.

* `fetchPage_of_error`, `fetchPage_of_ok` — how a page is looked up: with the document that it points to.
* `verdict_documents_of_document`, `verdict_documents_of_malformed`, `verdict_documents_of_none`, `verdict_cards_of_ok`
  — what either strategy makes of a page.
* `network_cases` — a page is unreachable, or points to a document that can be read or cannot, or to none.
* `settle_of_unreachable`, `settle_of_pointsTo`, `settle_of_malformed`, `settle_of_plain` — what becomes of a link in
  each case, with its diagnostics.
* `default_pipeline` — so for a whole document, after any session.
-/

namespace LinkEmbed

/-! ## Pages of a network -/

/-- A page points to a document: its endpoint answers with JSON other than null. -/
def Discovers (get : Url → Except EmbedError String) (html : String) (u : Url) (v : Json) : Prop :=
  ∃ endpoint body, (ExtractedPage.ofHtml html u).endpoint = some endpoint ∧ get endpoint = .ok body ∧
    Json.parse body = .ok v ∧ v ≠ .null

/-- The JSON that the endpoint of a page answers with, if it does. -/
def discovered? (get : Url → Except EmbedError String) (html : String) (u : Url) : Option Json :=
  (ExtractedPage.ofHtml html u).endpoint.bind (Http.discover get)

section

variable {get : Url → Except EmbedError String} {html : String} {u : Url} {v : Json} {e : EmbedError}

/-- A page points to a document where its endpoint answers with JSON, unless that is null. -/
theorem discovers_iff : Discovers get html u v ↔ discovered? get html u = some v ∧ v ≠ .null := by
  unfold Discovers discovered?
  constructor
  · rintro ⟨endpoint, body, hendpoint, hget, hparse, hv⟩
    refine ⟨?_, hv⟩
    rw [hendpoint, Option.bind_some, Http.discover, hget]
    simp only [hparse]
  · rintro ⟨h, hv⟩
    obtain ⟨endpoint, hendpoint, h⟩ := Option.bind_eq_some_iff.mp h
    -- Of all answers only JSON is one.
    unfold Http.discover at h
    split at h
    next => cases h
    next body hget =>
      split at h
      next w hparse =>
        obtain rfl := Option.some.inj h
        exact ⟨endpoint, body, hendpoint, hget, hparse, hv⟩
      next => cases h

theorem fetchPage_of_error (h : get u = .error e) : Http.fetchPage get true u = .error e := by
  unfold Http.fetchPage
  rw [h]
  rfl

/-- A page that is there is known, with the document that it points to. -/
theorem fetchPage_of_ok (h : get u = .ok html) :
    Http.fetchPage get true u =
      .ok (some { (ExtractedPage.ofHtml html u).metadata with oembed := discovered? get html u }) := by
  unfold Http.fetchPage discovered?
  rw [h]
  simp only [bind, Except.bind, pure, Except.pure]
  cases hendpoint : (ExtractedPage.ofHtml html u).endpoint with
  | none => rfl
  | some endpoint =>
    simp only [Option.bind_some]
    cases Http.discover get endpoint <;> rfl

end

/-! ## Verdicts -/

/-- An element as the parts of an embed. -/
def Element.rendering (x : Element) : Rendering := ⟨x.tag, x.properties, x.children⟩

namespace OEmbedDocuments

variable {d : OEmbedDocuments} {u : Url} {document : OEmbed} {x : Element} {e : EmbedError}

/-- A source that fails makes the strategy fail. -/
theorem verdict_of_failed (h : d.answer u = .failed e) : d.capabilities.verdict u = .fails e := by
  simp [CustomTransformer.verdict, capabilities, Capability.evaluate, h, Outcome.map, Outcome.bind,
    Outcome.guarded]

theorem verdict_of_none (h : d.answer u = .value none) : d.capabilities.verdict u = .refuses := by
  simp [CustomTransformer.verdict, capabilities, Capability.evaluate, h, Outcome.map, Outcome.bind,
    Outcome.guarded]

/-- A document that is known and can be shown is. -/
theorem verdict_of_shown (h : d.answer u = .value (some document))
    (hx : d.preset.element u document = .value x) : d.capabilities.verdict u = .renders x.rendering := by
  have hshown : d.shown u = .value x := by rw [shown, h, ← hx]
  simp [CustomTransformer.verdict, Transformer.render, CustomTransformer.transformer, capabilities,
    Capability.evaluate, h, hshown, Outcome.map, Outcome.bind, Outcome.guarded, Attempt.map, Attempt.bind,
    Attempt.toOutcome, bind, Except.bind, pure, Except.pure, Element.rendering]

end OEmbedDocuments

namespace LinkCards

variable {c : LinkCards} {u : Url} {page : Metadata} {e : EmbedError}

/-- A fetcher that fails makes the strategy fail. -/
theorem verdict_of_failed (h : c.answer u = .failed e) : c.capabilities.verdict u = .fails e := by
  simp [CustomTransformer.verdict, capabilities, Capability.evaluate, h, Outcome.map, Outcome.bind,
    Outcome.guarded]

/-- A page that is known is shown as a card. -/
theorem verdict_of_shown {style : CardStyle} {x : Element} (h : c.answer u = .value (some page))
    (hpreset : c.preset = style.preset) (hx : style.element (.ofMetadata u page) = .value x) :
    c.capabilities.verdict u = .renders x.rendering := by
  have hshown : c.shown u = .value (.ofMetadata u page) := by rw [shown, h]
  cases hchildren : style.children (.ofMetadata u page) with
  | panicked m => simp [CardStyle.element, hchildren, Attempt.map, Attempt.bind] at hx
  | value children =>
    obtain rfl : (⟨"a", style.properties (.ofMetadata u page), children⟩ : Element) = x := by
      rw [CardStyle.element, hchildren] at hx
      exact Attempt.value.inj hx
    simp [CustomTransformer.verdict, Transformer.render, CustomTransformer.transformer, capabilities,
      Capability.evaluate, h, hshown, hpreset, CardStyle.preset, hchildren, Outcome.map, Outcome.bind,
      Outcome.guarded, Attempt.toOutcome, bind, Except.bind, pure, Except.pure, Element.rendering]

end LinkCards

/-! ## The usual embedder -/

/-- Pages of a network with the documents they point to. -/
def networkDocuments (get : Url → Except EmbedError String) : OEmbedDocuments :=
  { fetcher := Http.pageFetcher get true }

/-- Pages of a network as cards. -/
def networkCards (get : Url → Except EmbedError String) : LinkCards :=
  { fetcher := Http.pageFetcher get true, preset := CardStyle.preset {} }

/-- The embedder of the usual settings. -/
def networkEmbedder (get : Url → Except EmbedError String) : Embedder :=
  { strategies := [.documents (networkDocuments get), .cards (networkCards get)] }

section

variable {get : Url → Except EmbedError String} {html : String} {u : Url} {v : Json} {e : EmbedError}

theorem build_default (status : Fetcher OEmbed) :
    ({} : EmbedConfig).build (Http.pageFetcher get true) status = .ok (networkEmbedder get) := rfl

/-- All its sources answer by the URL alone, as the network does. -/
theorem networkEmbedder_isFunction : ∀ s ∈ (networkEmbedder get).strategies, s.IsFunction := by
  refine List.forall_mem_cons.mpr ⟨⟨fun _ _ _ => rfl, List.forall_mem_nil _⟩, ?_⟩
  exact List.forall_mem_cons.mpr ⟨fun _ _ _ => rfl, List.forall_mem_nil _⟩

/-- No document is known of a page that is not there. -/
theorem documents_answer_of_error (h : get u = .error e) : (networkDocuments get).answer u = .failed e := by
  have hpage : (networkDocuments get).answer u =
      (Outcome.ofExcept (Http.fetchPage get true u)).bind (documentOf u) := rfl
  rw [hpage, fetchPage_of_error h]
  rfl

/-- The document of a page is the one that the page points to. -/
theorem documents_answer_of_ok (h : get u = .ok html) :
    (networkDocuments get).answer u =
      .ofExcept (Metadata.document? { oembed := discovered? get html u } u) := by
  have hpage : (networkDocuments get).answer u =
      (Outcome.ofExcept (Http.fetchPage get true u)).bind (documentOf u) := rfl
  rw [hpage, fetchPage_of_ok h]
  rfl

/-- The page is shown as a card whatever document it points to. -/
theorem verdict_cards_of_ok (h : get u = .ok html) :
    ∃ x, CardStyle.element {} (.ofMetadata u (ExtractedPage.ofHtml html u).metadata) = .value x ∧
      (networkCards get).capabilities.verdict u = .renders x.rendering := by
  have hanswer : (networkCards get).answer u = .ofExcept (Http.fetchPage get true u) := rfl
  rw [fetchPage_of_ok h] at hanswer
  exact ⟨_, rfl, LinkCards.verdict_of_shown hanswer rfl rfl⟩

/-- The usual preset shows every document. -/
theorem standard_element (u : Url) (document : OEmbed) :
    ∃ x, OEmbedPreset.standard.element u document = .value x := by
  cases document <;> exact ⟨_, rfl⟩

/-- What a page says of its document, when that is JSON other than null. -/
theorem document?_of_ne_null (hv : v ≠ .null) :
    Metadata.document? { oembed := some v } u =
      ((OEmbed.ofJson v).map some).mapError fun e => .malformed u.text e.message := by
  cases v with
  | null => exact absurd rfl hv
  | _ => rfl

/-- That it points to JSON other than null is all that counts. -/
theorem documents_answer_of_discovers (h : get u = .ok html) (hv : Discovers get html u v) :
    (networkDocuments get).answer u =
      .ofExcept (((OEmbed.ofJson v).map some).mapError fun e => .malformed u.text e.message) := by
  obtain ⟨hdiscovered, hne⟩ := discovers_iff.mp hv
  rw [documents_answer_of_ok h, hdiscovered, document?_of_ne_null hne]

/-- The document that a page points to is shown if it can be read. -/
theorem verdict_documents_of_document {document : OEmbed} (h : get u = .ok html)
    (hv : Discovers get html u v) (hdocument : OEmbed.ofJson v = .ok document) :
    ∃ x, OEmbedPreset.standard.element u document = .value x ∧
      (networkDocuments get).capabilities.verdict u = .renders x.rendering := by
  obtain ⟨x, hx⟩ := standard_element u document
  have hanswer := documents_answer_of_discovers h hv
  rw [hdocument] at hanswer
  exact ⟨x, hx, OEmbedDocuments.verdict_of_shown hanswer hx⟩

/-- JSON that is no document is an error. -/
theorem verdict_documents_of_malformed {fault : Json.Mismatch} (h : get u = .ok html)
    (hv : Discovers get html u v) (hfault : OEmbed.ofJson v = .error fault) :
    (networkDocuments get).capabilities.verdict u = .fails (.malformed u.text fault.message) := by
  have hanswer := documents_answer_of_discovers h hv
  rw [hfault] at hanswer
  exact OEmbedDocuments.verdict_of_failed hanswer

/-- A page without a document is passed over, and so is one whose document is null. -/
theorem verdict_documents_of_none (h : get u = .ok html) (hnone : ∀ v, ¬ Discovers get html u v) :
    (networkDocuments get).capabilities.verdict u = .refuses := by
  have hanswer := documents_answer_of_ok h
  cases hdiscovered : discovered? get html u with
  | none =>
    rw [hdiscovered] at hanswer
    exact OEmbedDocuments.verdict_of_none hanswer
  | some v =>
    -- What is discovered can only be null.
    obtain rfl : v = .null := by
      by_contra hne
      exact hnone v (discovers_iff.mpr ⟨hdiscovered, hne⟩)
    rw [hdiscovered] at hanswer
    exact OEmbedDocuments.verdict_of_none hanswer

end

/-! ## Links over a network -/

/-- An embed that shows some oEmbed document about a page. -/
def ShowsDocument (u : Url) (a b : Anchor) : Prop :=
  ∃ document x, OEmbedPreset.standard.element u document = .value x ∧ b = a.showing x.rendering

/-- An embed that shows a card of a page as its text describes itself. -/
def ShowsCard (html : String) (u : Url) (a b : Anchor) : Prop :=
  ∃ x, CardStyle.element {} (.ofMetadata u (ExtractedPage.ofHtml html u).metadata) = .value x ∧
    b = a.showing x.rendering

/-- A page that points to a document that can be read. -/
def PointsTo (get : Url → Except EmbedError String) (html : String) (u : Url) (document : OEmbed) : Prop :=
  ∃ v, Discovers get html u v ∧ OEmbed.ofJson v = .ok document

/-- What becomes of a link `a` to the page `u` over a network: the link says `b` then, and there are
diagnostics. -/
structure NetworkOutcome (get : Url → Except EmbedError String) (file : Option String) (a : Anchor) (u : Url)
    (b : Anchor) (messages : List Diagnostic) : Prop where
  /-- The link is embedded exactly when its page is there. -/
  embedded : b.isEmbedded = true ↔ ∃ html, get u = .ok html
  /-- It shows a document exactly when its page points to one that can be read. -/
  claimed : ShowsDocument u a b ↔ ∃ html document, get u = .ok html ∧ PointsTo get html u document
  /-- Both strategies report that the page is not there. -/
  unreachable : ∀ e, get u = .error e → b = a ∧
    a.Reports file messages [(OEmbedDocuments.name, e), (LinkCards.name, e)]
  /-- The document that the page points to is the one that is shown. -/
  document : ∀ html document, get u = .ok html → PointsTo get html u document →
    ∃ x, OEmbedPreset.standard.element u document = .value x ∧ b = a.showing x.rendering ∧ messages = []
  /-- A document without the form it should have is reported, and the page is shown as a card. -/
  malformed : ∀ html v (fault : Json.Mismatch), get u = .ok html → Discovers get html u v →
    OEmbed.ofJson v = .error fault → ShowsCard html u a b ∧
      a.Reports file messages [(OEmbedDocuments.name, .malformed u.text fault.message)]
  /-- A page that points to no document is shown as a card. -/
  plain : ∀ html, get u = .ok html → (∀ v, ¬ Discovers get html u v) → ShowsCard html u a b ∧ messages = []

section

variable {get : Url → Except EmbedError String} {file : Option String} {a b : Anchor} {html : String} {u : Url}
  {v : Json} {e : EmbedError}

/-- Each page is unreachable, or points to a document that can be read or cannot, or to none. -/
theorem network_cases (get : Url → Except EmbedError String) (u : Url) :
    (∃ e, get u = .error e) ∨ ∃ html, get u = .ok html ∧
      ((∃ document, PointsTo get html u document) ∨
        (∃ v fault, Discovers get html u v ∧ OEmbed.ofJson v = .error fault) ∨
        ∀ v, ¬ Discovers get html u v) := by
  cases hget : get u with
  | error e => exact Or.inl ⟨e, rfl⟩
  | ok html =>
    refine Or.inr ⟨html, rfl, ?_⟩
    by_cases hv : ∃ v, Discovers get html u v
    · obtain ⟨v, hv⟩ := hv
      cases hread : OEmbed.ofJson v with
      | ok document => exact Or.inl ⟨document, v, hv, hread⟩
      | error fault => exact Or.inr (Or.inl ⟨v, fault, hv, hread⟩)
    · exact Or.inr (Or.inr (not_exists.mp hv))

/-- Both strategies fail, and the link is left alone. -/
theorem settle_of_unreachable (h : get u = .error e) :
    settle file a u (networkEmbedder get).capabilities =
      ⟨a, [.embedFailure OEmbedDocuments.name a.url file a.position e,
        .embedFailure LinkCards.name a.url file a.position e]⟩ := by
  have hdocuments := OEmbedDocuments.verdict_of_failed (documents_answer_of_error h)
  have hcards : (networkCards get).capabilities.verdict u = .fails e := by
    refine LinkCards.verdict_of_failed ?_
    show Outcome.ofExcept (Http.fetchPage get true u) = .failed e
    rw [fetchPage_of_error h]
    rfl
  show settle file a u [(networkDocuments get).capabilities, (networkCards get).capabilities] = _
  simp only [settle, hdocuments, hcards]
  rfl

/-- The document is shown, and nobody else is asked. -/
theorem settle_of_pointsTo {document : OEmbed} (h : get u = .ok html)
    (hdocument : PointsTo get html u document) :
    ∃ x, OEmbedPreset.standard.element u document = .value x ∧
      settle file a u (networkEmbedder get).capabilities = ⟨a.showing x.rendering, []⟩ := by
  obtain ⟨v, hv, hread⟩ := hdocument
  obtain ⟨x, hx, hverdict⟩ := verdict_documents_of_document h hv hread
  refine ⟨x, hx, ?_⟩
  show settle file a u [(networkDocuments get).capabilities, (networkCards get).capabilities] = _
  rw [settle, hverdict]

/-- The error is reported, and the page is shown as a card. -/
theorem settle_of_malformed {fault : Json.Mismatch} (h : get u = .ok html) (hv : Discovers get html u v)
    (hfault : OEmbed.ofJson v = .error fault) :
    ShowsCard html u a (settle file a u (networkEmbedder get).capabilities).anchor ∧
      (settle file a u (networkEmbedder get).capabilities).diagnostics =
        [.embedFailure OEmbedDocuments.name a.url file a.position (.malformed u.text fault.message)] := by
  obtain ⟨x, hx, hcards⟩ := verdict_cards_of_ok h
  have hsettle : settle file a u (networkEmbedder get).capabilities =
      ⟨a.showing x.rendering,
        [.embedFailure OEmbedDocuments.name a.url file a.position (.malformed u.text fault.message)]⟩ := by
    show settle file a u [(networkDocuments get).capabilities, (networkCards get).capabilities] = _
    simp only [settle, verdict_documents_of_malformed h hv hfault, hcards]
    rfl
  rw [hsettle]
  exact ⟨⟨x, hx, rfl⟩, rfl⟩

/-- The page is shown as a card. -/
theorem settle_of_plain (h : get u = .ok html) (hnone : ∀ v, ¬ Discovers get html u v) :
    ShowsCard html u a (settle file a u (networkEmbedder get).capabilities).anchor ∧
      (settle file a u (networkEmbedder get).capabilities).diagnostics = [] := by
  obtain ⟨x, hx, hcards⟩ := verdict_cards_of_ok h
  have hsettle : settle file a u (networkEmbedder get).capabilities = ⟨a.showing x.rendering, []⟩ := by
    show settle file a u [(networkDocuments get).capabilities, (networkCards get).capabilities] = _
    simp only [settle, verdict_documents_of_none h hnone, hcards]
  rw [hsettle]
  exact ⟨⟨x, hx, rfl⟩, rfl⟩

/-- No card looks like a document: a card is a link around a block. -/
theorem ShowsCard.not_showsDocument (h : ShowsCard html u a b) : ¬ ShowsDocument u a b := by
  rintro ⟨document, y, hy, hb⟩
  obtain ⟨x, hx, rfl⟩ := h
  obtain ⟨htag, -, hchildren⟩ : x.tag = y.tag ∧
      a.properties.merge x.properties = a.properties.merge y.properties ∧ x.children = y.children := by
    simpa [Anchor.showing, Anchor.commit, Element.rendering] using hb
  obtain rfl := Attempt.value.inj hx
  cases document with
  | link common =>
    -- A link to the page has the tag of a card, but a text for its content.
    obtain rfl := Attempt.value.inj hy
    cases hchildren
  | photo p =>
    obtain rfl := Attempt.value.inj hy
    exact absurd (show "a" = "img" from htag) (by decide)
  | video | rich =>
    obtain rfl := Attempt.value.inj hy
    exact absurd (show "a" = "div" from htag) (by decide)

/-- A link is embedded exactly when its page is there. -/
theorem isEmbedded_settle_iff (hembed : a.embed = none) :
    (settle file a u (networkEmbedder get).capabilities).anchor.isEmbedded = true ↔
      ∃ html, get u = .ok html := by
  rcases network_cases get u with ⟨e, he⟩ | ⟨html, hget, hpage⟩
  · rw [settle_of_unreachable he]
    simp [Anchor.isEmbedded, hembed, he]
  · -- Whatever the page points to, one of the two strategies renders it.
    have hshowing : ∃ x, (settle file a u (networkEmbedder get).capabilities).anchor = a.showing x := by
      rcases hpage with ⟨document, hdocument⟩ | ⟨v, fault, hv, hfault⟩ | hnone
      · obtain ⟨x, -, hsettle⟩ := settle_of_pointsTo hget hdocument
        exact ⟨x.rendering, by rw [hsettle]⟩
      · obtain ⟨⟨x, -, hx⟩, -⟩ := settle_of_malformed hget hv hfault
        exact ⟨x.rendering, hx⟩
      · obtain ⟨⟨x, -, hx⟩, -⟩ := settle_of_plain hget hnone
        exact ⟨x.rendering, hx⟩
    obtain ⟨x, hx⟩ := hshowing
    rw [hx]
    exact ⟨fun _ => ⟨html, hget⟩, fun _ => rfl⟩

/-- A link shows a document exactly when its page points to one that can be read. -/
theorem showsDocument_settle_iff (hembed : a.embed = none) :
    ShowsDocument u a (settle file a u (networkEmbedder get).capabilities).anchor ↔
      ∃ html document, get u = .ok html ∧ PointsTo get html u document := by
  constructor
  · intro hshows
    -- Of the four things that can happen with a page only one leaves a document to show.
    rcases network_cases get u with
      ⟨e, he⟩ | ⟨html, hget, ⟨document, hdocument⟩ | ⟨v, fault, hv, hfault⟩ | hnone⟩
    · obtain ⟨document, x, -, hx⟩ := hshows
      rw [settle_of_unreachable he] at hx
      have hnone : a.embed = some _ := congrArg Anchor.embed hx
      rw [hembed] at hnone
      cases hnone
    · exact ⟨html, document, hget, hdocument⟩
    · exact absurd hshows (settle_of_malformed hget hv hfault).1.not_showsDocument
    · exact absurd hshows (settle_of_plain hget hnone).1.not_showsDocument
  · rintro ⟨html, document, hget, hdocument⟩
    obtain ⟨x, hx, hsettle⟩ := settle_of_pointsTo hget hdocument
    exact ⟨document, x, hx, by rw [hsettle]⟩

/-- In each case the link and its diagnostics are as foreseen. -/
theorem networkOutcome_of_settle (hembed : a.embed = none) :
    NetworkOutcome get file a u (settle file a u (networkEmbedder get).capabilities).anchor
      (settle file a u (networkEmbedder get).capabilities).diagnostics where
  embedded := isEmbedded_settle_iff hembed
  claimed := showsDocument_settle_iff hembed
  unreachable e he := by
    rw [settle_of_unreachable he]
    exact ⟨rfl, Anchor.reports_iff.mpr rfl⟩
  document html document hget hdocument := by
    obtain ⟨x, hx, hsettle⟩ := settle_of_pointsTo hget hdocument
    rw [hsettle]
    exact ⟨x, hx, rfl, rfl⟩
  malformed html v fault hget hv hfault := by
    obtain ⟨hcard, hreports⟩ := settle_of_malformed hget hv hfault
    rw [hreports]
    exact ⟨hcard, Anchor.reports_iff.mpr rfl⟩
  plain _ := settle_of_plain

/-- The embedder of the usual settings over a network, at any time of a session: what becomes of each link
that was not embedded before depends on its page and the document that the page points to, and all
diagnostics are those of the links, in their order. -/
theorem default_pipeline {ρ : Type} (get : Url → Except EmbedError String) (status : Fetcher OEmbed) :
    ∃ e, ({} : EmbedConfig).build (Http.pageFetcher get true) status = .ok e ∧
      ∀ (actions : List (Action e.strategies.length ρ)) (sink : Sink ρ) (d : Document) (r : ρ),
        let outgoing := e.run sink d (remembered actions) r
        ∃ messages : Path → List Diagnostic,
          outgoing.receiver = (d.barePaths.flatMap messages).foldl sink.receive r ∧
          ∀ p ∈ d.barePaths, ∃ a b, d.shell? p = some (.link a []) ∧
            outgoing.document.shell? p = some (.link b []) ∧
            ∀ u, Url.parse a.url = .ok u → a.embed = none →
              NetworkOutcome get (sink.path? r) a u b (messages p) := by
  refine ⟨networkEmbedder get, build_default status, fun actions sink d r => ?_⟩
  intro outgoing
  -- What was remembered before does not matter, since all sources answer by the URL alone.
  let report := settleAnchor (sink.path? r) (networkEmbedder get).capabilities
  obtain ⟨hdocument, hreceiver, -⟩ :=
    d.resolveWith_of_uniform sink (Embedder.isUniform networkEmbedder_isFunction (sink.path? r))
      (List.Perm.refl _) (coherent_remembered networkEmbedder_isFunction actions)
  refine ⟨fun p => ((d.anchor? p).map fun a => (report a).diagnostics).getD [], hreceiver, fun p hp => ?_⟩
  obtain ⟨a, ha, hbefore, hafter⟩ := Document.link_of_mem_barePaths hp fun a => (report a).anchor
  refine ⟨a, (report a).anchor, hbefore, ?_, fun u hu hembed => ?_⟩
  · exact (congrArg (Document.shell? · p) hdocument).trans hafter
  · have hreport : report a = settle (sink.path? r) a u (networkEmbedder get).capabilities := by
      simp only [report, settleAnchor, hu]
    simp only [ha, Option.map_some, Option.getD_some, hreport]
    exact networkOutcome_of_settle hembed

end

end LinkEmbed
