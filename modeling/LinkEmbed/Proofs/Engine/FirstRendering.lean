import LinkEmbed.Proofs.Engine.Watch

/-!
# The first transformer that renders a link decides

For transformers that answer about a URL as they like, but by the URL alone, a pass is said link by link.

* `CustomTransformer.verdict_eq_renders_iff`, `CustomTransformer.failure?_eq_of_verdict` — a transformer's verdict on
  a page, in terms of what its capabilities answer.
* `settle_of_isFirstRendering`, `settle_of_no_rendering` — what verdicts make of a link: the first transformer that
  renders it decides, and whoever failed before is reported.
* `asked_of_offer` — just the transformers up to that one are asked, each once and in order.
* `resolve_first_rendering` — so for a whole document: what each link becomes, the diagnostics with all they say,
  who was asked, and that all else is as it was.
-/

namespace LinkEmbed

/-! ## What a transformer makes of a page -/

/-- The error in an answer, if there is one. Breaking off is an error, with the message that it has. -/
def Outcome.error? {α : Type} : Outcome α → Option EmbedError
  | .value _ => none
  | .failed e => some e
  | .panicked m => some (.panicked (m.getD "unknown panic"))

/-- The error is the one that an answer is guarded into. -/
theorem Outcome.error?_eq {α : Type} (x : Outcome α) :
    x.error? = match x.guarded with
      | .ok _ => none
      | .error e => some e := by
  cases x <;> rfl

/-- Guarding keeps answers, and makes none. -/
theorem Outcome.guarded_eq_ok_iff {α : Type} {x : Outcome α} {v : α} : x.guarded = .ok v ↔ x = .value v := by
  constructor
  · exact Outcome.guarded_eq_ok
  · rintro rfl
    rfl

namespace CustomTransformer

/-- The transformer takes the page and gives all parts of an embed. -/
def Renders (c : CustomTransformer) (u : Url) (x : Rendering) : Prop :=
  c.accepts.evaluate u = .value true ∧ c.tagName.evaluate u = .value x.tag ∧
    c.properties.evaluate u = .value x.properties ∧ c.children.evaluate u = .value x.children

/-- The error with which a transformer fails on a page: that of its decision or, once it takes the page, the
first of its parts. -/
def failure? (c : CustomTransformer) (u : Url) : Option EmbedError :=
  match c.accepts.evaluate u with
  | .value false => none
  | .value true =>
    ((c.tagName.evaluate u).error?.or (c.properties.evaluate u).error?).or (c.children.evaluate u).error?
  | answer => answer.error?

/-- A rendering consists of the answers of all three capabilities. -/
theorem render_eq_ok_iff {c : CustomTransformer} {u : Url} {x : Rendering} :
    c.transformer.render u () = .ok x ↔
      (c.tagName.evaluate u).guarded = .ok x.tag ∧ (c.properties.evaluate u).guarded = .ok x.properties ∧
        (c.children.evaluate u).guarded = .ok x.children := by
  obtain ⟨tag, properties, children⟩ := x
  simp only [Transformer.render, transformer]
  cases (c.tagName.evaluate u).guarded with
  | error e => simp [bind, Except.bind]
  | ok t =>
    cases (c.properties.evaluate u).guarded with
    | error e => simp [bind, Except.bind]
    | ok p => cases (c.children.evaluate u).guarded <;> simp [bind, Except.bind, pure, Except.pure]

/-- The error of a failed rendering is that of the first part that fails. -/
theorem firstError_of_render {c : CustomTransformer} {u : Url} :
    ((c.tagName.evaluate u).error?.or (c.properties.evaluate u).error?).or (c.children.evaluate u).error? =
      match c.transformer.render u () with
      | .error e => some e
      | .ok _ => none := by
  simp only [Transformer.render, transformer, Outcome.error?_eq]
  cases (c.tagName.evaluate u).guarded with
  | error e => rfl
  | ok t =>
    cases (c.properties.evaluate u).guarded with
    | error e => rfl
    | ok p => cases (c.children.evaluate u).guarded <;> rfl

/-- A verdict is a rendering exactly if the page is taken and all parts are answered. -/
theorem verdict_eq_renders_iff {c : CustomTransformer} {u : Url} {x : Rendering} :
    c.verdict u = .renders x ↔ c.Renders u x := by
  simp only [Renders, ← Outcome.guarded_eq_ok_iff, ← render_eq_ok_iff, verdict]
  cases (c.accepts.evaluate u).guarded with
  | error e => simp
  | ok takes =>
    cases takes with
    | false => simp
    | true => cases c.transformer.render u () <;> simp

/-- The error with which a transformer fails is that of its verdict. -/
theorem failure?_eq_of_verdict (c : CustomTransformer) (u : Url) :
    c.failure? u = match c.verdict u with
      | .fails e => some e
      | _ => none := by
  unfold failure? verdict
  cases c.accepts.evaluate u with
  | failed e => rfl
  | panicked m => rfl
  | value takes =>
    cases takes with
    | false => rfl
    | true =>
      simp only [firstError_of_render, Outcome.guarded]
      cases c.transformer.render u () <;> rfl

end CustomTransformer

/-! ## The first that renders -/

section

variable {c : CustomTransformer} {cs : List CustomTransformer} {u : Url} {w : Nat} {x : Rendering}
  {file : Option String} {a : Anchor}

/-- `w` is the least index of a transformer that renders the page. -/
def IsFirstRendering (cs : List CustomTransformer) (u : Url) (w : Nat) (x : Rendering) : Prop :=
  (∃ c, cs[w]? = some c ∧ c.Renders u x) ∧ ∀ j < w, ∀ c, cs[j]? = some c → ∀ y, ¬ c.Renders u y

/-- The names of all of some transformers that fail on the page, each with its error. -/
def failures (u : Url) (cs : List CustomTransformer) : List (String × EmbedError) :=
  cs.filterMap fun c => (c.failure? u).map fun e => (c.name, e)

/-- The diagnostics for all of some transformers that fail on the page. -/
def failureReports (file : Option String) (a : Anchor) (u : Url) (cs : List CustomTransformer) :
    List Diagnostic :=
  (failures u cs).map fun f => .embedFailure f.1 a.url file a.position f.2

/-- Either the head renders, or it is passed over and the first is found behind it. -/
theorem isFirstRendering_cons :
    IsFirstRendering (c :: cs) u w x ↔
      (w = 0 ∧ c.Renders u x) ∨ ((∀ y, ¬ c.Renders u y) ∧ ∃ v, w = v + 1 ∧ IsFirstRendering cs u v x) := by
  constructor
  · rintro ⟨⟨b, hb, hx⟩, hleast⟩
    -- Being the first at `v + 1` means that the head does not render, and being the first at `v` behind it.
    cases w with
    | zero =>
      obtain rfl : c = b := by simpa using hb
      exact Or.inl ⟨rfl, hx⟩
    | succ v =>
      refine Or.inr ⟨hleast 0 (Nat.succ_pos v) c rfl, v, rfl, ⟨b, by simpa using hb, hx⟩, ?_⟩
      intro j hj b' hb'
      exact hleast (j + 1) (Nat.succ_lt_succ hj) b' (by simpa using hb')
  · rintro (⟨rfl, hx⟩ | ⟨hc, v, rfl, ⟨b, hb, hx⟩, hleast⟩)
    · exact ⟨⟨c, rfl, hx⟩, fun j hj => absurd hj (Nat.not_lt_zero j)⟩
    · refine ⟨⟨b, by simpa using hb, hx⟩, fun j hj b' hb' => ?_⟩
      cases j with
      | zero =>
        obtain rfl : c = b' := by simpa using hb'
        exact hc
      | succ j => exact hleast j (Nat.lt_of_succ_lt_succ hj) b' (by simpa using hb')

/-- The first that renders decides, and all before it that fail are reported. -/
theorem settle_of_isFirstRendering (h : IsFirstRendering cs u w x) :
    settle file a u cs = ⟨a.showing x, failureReports file a u (cs.take w)⟩ := by
  induction cs generalizing w with
  | nil => simp [IsFirstRendering] at h
  | cons c cs ih =>
    have hfailure := c.failure?_eq_of_verdict u
    rcases isFirstRendering_cons.mp h with ⟨rfl, hx⟩ | ⟨hc, v, rfl, hfirst⟩
    · -- The head renders, and nobody before it fails.
      rw [settle, CustomTransformer.verdict_eq_renders_iff.mpr hx]
      rfl
    · -- The head is passed over, with a diagnostic if it fails.
      rw [settle]
      cases hverdict : c.verdict u with
      | refuses =>
        rw [hverdict] at hfailure
        simp [ih hfirst, failureReports, failures, hfailure]
      | fails e =>
        rw [hverdict] at hfailure
        simp [ih hfirst, failureReports, failures, hfailure, LinkReport.withFailure]
      | renders y => exact absurd (CustomTransformer.verdict_eq_renders_iff.mp hverdict) (hc y)

/-- A link that nobody renders is left alone, and all that fail are reported. -/
theorem settle_of_no_rendering (h : ∀ w x, ¬ IsFirstRendering cs u w x) :
    settle file a u cs = ⟨a, failureReports file a u cs⟩ := by
  induction cs with
  | nil => rfl
  | cons c cs ih =>
    have hfailure := c.failure?_eq_of_verdict u
    have hc : ∀ y, ¬ c.Renders u y := fun y hy => h 0 y (isFirstRendering_cons.mpr (Or.inl ⟨rfl, hy⟩))
    have hrest : ∀ w x, ¬ IsFirstRendering cs u w x := fun w x hx =>
      h (w + 1) x (isFirstRendering_cons.mpr (Or.inr ⟨hc, w, rfl, hx⟩))
    -- What the head does is a refusal or a failure, and a failure is reported before all that follow.
    rw [settle]
    cases hverdict : c.verdict u with
    | refuses =>
      rw [hverdict] at hfailure
      simp [ih hrest, failureReports, failures, hfailure]
    | fails e =>
      rw [hverdict] at hfailure
      simp [ih hrest, failureReports, failures, hfailure, LinkReport.withFailure]
    | renders y => exact absurd (CustomTransformer.verdict_eq_renders_iff.mp hverdict) (hc y)

end

/-! ## Who is asked -/

/-- Transformers that answer by the page alone, watched, with their numbers from `k` on. -/
def watchFrom (k : Nat) (cs : List CustomTransformer) : List (Transformer (Unit × List (Call Nat Unit))) :=
  (cs.zipIdx k).map fun (c, i) => c.transformer.watched i

/-- The number of the transformer that was asked, and the page. -/
def Call.asked {σ : Type} (call : Call Nat σ) : Nat × Url := (call.number, call.url)

/-- How many transformers are asked about a page: all up to the first that renders it. -/
def reach (u : Url) : List CustomTransformer → Nat
  | [] => 0
  | c :: cs =>
    match c.verdict u with
    | .renders _ => 1
    | _ => reach u cs + 1

section

variable {c : CustomTransformer} {cs : List CustomTransformer} {u : Url} {w : Nat} {x : Rendering}
  {file : Option String} {a : Anchor}

theorem watchFrom_cons (k : Nat) :
    watchFrom k (c :: cs) = c.transformer.watched k :: watchFrom (k + 1) cs := rfl

/-- As far as the first that renders. -/
theorem reach_of_isFirstRendering (h : IsFirstRendering cs u w x) : reach u cs = w + 1 := by
  induction cs generalizing w with
  | nil => simp [IsFirstRendering] at h
  | cons c cs ih =>
    rw [reach]
    rcases isFirstRendering_cons.mp h with ⟨rfl, hx⟩ | ⟨hc, v, rfl, hfirst⟩
    · rw [CustomTransformer.verdict_eq_renders_iff.mpr hx]
    · cases hverdict : c.verdict u with
      | renders y => exact absurd (CustomTransformer.verdict_eq_renders_iff.mp hverdict) (hc y)
      | refuses | fails => simp [ih hfirst]

/-- All of them, when nobody renders. -/
theorem reach_of_no_rendering (h : ∀ w x, ¬ IsFirstRendering cs u w x) : reach u cs = cs.length := by
  induction cs with
  | nil => rfl
  | cons c cs ih =>
    have hrest : ∀ w x, ¬ IsFirstRendering cs u w x := fun w x hx => by
      -- A rendering behind the head would be the first, or the head would render itself.
      by_cases hc : ∃ y, c.Renders u y
      · obtain ⟨y, hy⟩ := hc
        exact h 0 y (isFirstRendering_cons.mpr (Or.inl ⟨rfl, hy⟩))
      · exact h (w + 1) x (isFirstRendering_cons.mpr (Or.inr ⟨not_exists.mp hc, w, rfl, hx⟩))
    rw [reach]
    cases hverdict : c.verdict u with
    | renders y =>
      have hy := CustomTransformer.verdict_eq_renders_iff.mp hverdict
      exact absurd (isFirstRendering_cons.mpr (Or.inl ⟨rfl, hy⟩)) (h 0 y)
    | refuses | fails => simp [ih hrest]

/-- Of all transformers those within reach are asked, each once and in order. -/
theorem asked_of_offer (k : Nat) (s : Unit × List (Call Nat Unit)) :
    (offer file a u (watchFrom k cs) s).2.2.map Call.asked =
      s.2.map Call.asked ++ (List.range' k (reach u cs)).map fun i => (i, u) := by
  induction cs generalizing k s with
  | nil => simp [watchFrom, offer, reach]
  | cons c cs ih =>
    let after : Unit × List (Call Nat Unit) :=
      (((), s.2 ++ [⟨k, u, (), c.accepts.evaluate u, ()⟩]) : Unit × List (Call Nat Unit))
    have haccepts : (c.transformer.watched k).accepts u s = (c.accepts.evaluate u, after) := rfl
    have hlog : after.2.map Call.asked = s.2.map Call.asked ++ [(k, u)] := by simp [after, Call.asked]
    have hrest : (offer file a u (watchFrom (k + 1) cs) after).2.2.map Call.asked =
        s.2.map Call.asked ++ (List.range' k (reach u cs + 1)).map fun i => (i, u) := by
      rw [ih, hlog, List.range'_succ, List.map_cons, List.append_assoc, List.singleton_append]
    -- Only a transformer that renders keeps the link from the next.
    rw [watchFrom_cons, reach, CustomTransformer.verdict]
    cases hanswer : (c.accepts.evaluate u).guarded with
    | error e =>
      rw [offer_failed haccepts hanswer]
      exact hrest
    | ok takes =>
      cases takes with
      | false =>
        rw [offer_refused haccepts hanswer]
        exact hrest
      | true =>
        cases hparts : c.transformer.render u () with
        | error e =>
          rw [offer_unrendered haccepts hanswer hparts]
          exact hrest
        | ok y =>
          rw [offer_rendered haccepts hanswer hparts]
          exact hlog

end

/-! ## A whole document -/

/-- What the first transformer that renders it, if any, makes of a link: what the link says then, the
diagnostics, and who was asked about which page. -/
structure Decided (cs : List CustomTransformer) (file : Option String) (a b : Anchor)
    (messages : List Diagnostic) (asked : List (Nat × Url)) : Prop where
  /-- What is no absolute URL is left alone. -/
  unreadable : ∀ e, Url.parse a.url = .error e → b = a ∧ messages = [] ∧ asked = []
  rendered : ∀ u w x, Url.parse a.url = .ok u → IsFirstRendering cs u w x →
    b = { a with embed := some ⟨x.tag, a.properties.merge x.properties, x.children⟩ } ∧
      a.Reports file messages (failures u (cs.take w)) ∧ asked = (List.range (w + 1)).map fun i => (i, u)
  unrendered : ∀ u, Url.parse a.url = .ok u → (∀ w x, ¬ IsFirstRendering cs u w x) →
    b = a ∧ a.Reports file messages (failures u cs) ∧ asked = (List.range cs.length).map fun i => (i, u)

/-- Who is asked about a link. -/
def consulted (cs : List CustomTransformer) (a : Anchor) : List (Nat × Url) :=
  match Url.parse a.url with
  | .ok u => (List.range (reach u cs)).map fun i => (i, u)
  | .error _ => []

/-- The same for a link whose destination is still to be read. -/
theorem asked_of_resolveAnchor {cs : List CustomTransformer} {file : Option String} (a : Anchor)
    (s : Unit × List (Call Nat Unit)) :
    (resolveAnchor (watchFrom 0 cs) file a s).2.2.map Call.asked = s.2.map Call.asked ++ consulted cs a := by
  unfold resolveAnchor consulted
  cases Url.parse a.url with
  | error e => simp
  | ok u =>
    simp only [List.range_eq_range']
    exact asked_of_offer 0 s

/-- What verdicts make of a link is what its first rendering transformer decides. -/
theorem decided_of_settleAnchor (cs : List CustomTransformer) (file : Option String) (a : Anchor) :
    Decided cs file a (settleAnchor file cs a).anchor (settleAnchor file cs a).diagnostics
      (consulted cs a) where
  unreadable e he := by simp [settleAnchor, consulted, he]
  rendered u w x hu hx := by
    simp [settleAnchor, consulted, hu, settle_of_isFirstRendering hx, reach_of_isFirstRendering hx,
      Anchor.showing, Anchor.commit, failureReports, Anchor.reports_iff]
  unrendered u hu hnone := by
    simp [settleAnchor, consulted, hu, settle_of_no_rendering hnone, reach_of_no_rendering hnone,
      failureReports, Anchor.reports_iff]

/-- Transformers follow the capabilities they are made of. -/
theorem follows_transformers {σ : Type} {u : Url} (cs : List CustomTransformer) :
    List.Forall₂ (Transformer.Follows (fun _ : σ => True) u) (cs.map CustomTransformer.transformer) cs := by
  induction cs with
  | nil => exact List.Forall₂.nil
  | cons c cs ih => exact List.Forall₂.cons ⟨rfl, fun _ _ => rfl, fun _ _ => trivial, fun _ _ _ => rfl⟩ ih

/-- So do they when they are watched. -/
theorem follows_watchFrom {u : Url} (cs : List CustomTransformer) (k : Nat) :
    List.Forall₂ (Transformer.Follows (fun _ : Unit × List (Call Nat Unit) => True) u) (watchFrom k cs) cs := by
  induction cs generalizing k with
  | nil => exact List.Forall₂.nil
  | cons c cs ih =>
    rw [watchFrom_cons]
    exact List.Forall₂.cons ⟨rfl, fun _ _ => rfl, fun _ _ => trivial, fun _ _ _ => rfl⟩ (ih (k + 1))

/-- Transformers that follow capabilities make of each link what the capabilities settle. -/
theorem isUniform_of_follows {σ : Type} {ts : List (Transformer σ)} {cs : List CustomTransformer}
    (h : ∀ u, List.Forall₂ (Transformer.Follows (fun _ : σ => True) u) ts cs) (file : Option String) :
    IsUniform ts file (fun _ : σ => True) (settleAnchor file cs) :=
  fun _ _ hs => resolveAnchor_of_follows (fun _ u _ => h u) hs

/-- A pass over a document, link by link: a link that may be embedded becomes what its first rendering
transformer makes of it, the receiver gets the diagnostics of the links in their order, and all else in the
document is as it was. Watching changes nothing of it, and just the transformers up to the first rendering one
are seen to be asked. -/
theorem resolve_first_rendering {ρ : Type} (cs : List CustomTransformer) (sink : Sink ρ) (d : Document)
    (r : ρ) :
    let result := d.resolve (cs.map CustomTransformer.transformer) sink () r
    let watched := d.resolve (watchFrom 0 cs) sink ((), []) r
    ∃ (messages : Path → List Diagnostic) (asked : Path → List (Nat × Url)),
      result.receiver = (d.barePaths.flatMap messages).foldl sink.receive r ∧
      watched.document = result.document ∧ watched.receiver = result.receiver ∧
      watched.memory.2.map Call.asked = d.barePaths.flatMap asked ∧
      result.document.position = d.position ∧
      (∀ p ∉ d.barePaths, result.document.shell? p = d.shell? p) ∧
      ∀ p ∈ d.barePaths, ∃ a b, d.shell? p = some (.link a []) ∧
        result.document.shell? p = some (.link b []) ∧
        Decided cs (sink.path? r) a b (messages p) (asked p) := by
  intro result watched
  have hplain : IsUniform (cs.map CustomTransformer.transformer) (sink.path? r) (fun _ : Unit => True)
      (settleAnchor (sink.path? r) cs) := isUniform_of_follows (fun _ => follows_transformers cs) _
  have hwatched : IsUniform (watchFrom 0 cs) (sink.path? r) (fun _ => True) (settleAnchor (sink.path? r) cs) :=
    isUniform_of_follows (fun _ => follows_watchFrom cs 0) _
  obtain ⟨hdocument, hreceiver, -⟩ := d.resolveWith_of_uniform sink hplain (List.Perm.refl _) trivial
  obtain ⟨hdocument', hreceiver', -⟩ := d.resolveWith_of_uniform sink hwatched (List.Perm.refl _) trivial
  -- The messages and the questions at a path are those of the link that stands there before the pass.
  refine ⟨fun p => ((d.anchor? p).map fun a => (settleAnchor (sink.path? r) cs a).diagnostics).getD [],
    fun p => ((d.anchor? p).map (consulted cs)).getD [], hreceiver,
    hdocument'.trans hdocument.symm, hreceiver'.trans hreceiver.symm, ?_, ?_, ?_, ?_⟩
  · exact d.record_of_resolveWith (fun s : Unit × List (Call Nat Unit) => s.2.map Call.asked) sink
      asked_of_resolveAnchor (List.Perm.refl _)
  · exact (congrArg Document.position hdocument).trans (d.position_settled _)
  · intro p hp
    exact (congrArg (Document.shell? · p) hdocument).trans (by rw [d.shell?_settled, if_neg hp])
  · intro p hp
    obtain ⟨a, ha, hbefore, hafter⟩ := Document.link_of_mem_barePaths hp
      fun a => (settleAnchor (sink.path? r) cs a).anchor
    refine ⟨a, (settleAnchor (sink.path? r) cs a).anchor, hbefore, ?_, ?_⟩
    · exact (congrArg (Document.shell? · p) hdocument).trans hafter
    · simp only [ha, Option.map_some, Option.getD_some]
      exact decided_of_settleAnchor cs (sink.path? r) a

end LinkEmbed
