import LinkEmbed.Resolve
import Mathlib.Data.List.Forall2

/-!
# Offering a link to transformers

A link is offered to one transformer after another until one renders it.

* `offer_refused`, `offer_failed`, `offer_unrendered`, `offer_rendered` — one equation for each way in which a
  transformer can answer, with the memory that it leaves to the next.
* `Anchor.reports_iff` — messages report failures if they are the messages for them, one by one.
* `offer_of_follows`, `resolveAnchor_of_follows` — transformers that follow capabilities, whatever they remember,
  make of a link what the capabilities' verdicts say.
-/

namespace LinkEmbed

variable {σ : Type} {file : Option String} {a : Anchor} {u : Url} {t : Transformer σ} {ts : List (Transformer σ)}
  {s s' : σ} {answer : Outcome Bool} {e : EmbedError} {x : Rendering}

/-- A report with one more diagnostic in front. -/
def LinkReport.withFailure (r : LinkReport) (message : Diagnostic) : LinkReport :=
  { r with diagnostics := message :: r.diagnostics }

/-- Messages about a link, one for each failure and in the order of the failures. A failure is the name of a
transformer with its error. -/
def Anchor.Reports (a : Anchor) (file : Option String) (messages : List Diagnostic)
    (failures : List (String × EmbedError)) : Prop :=
  List.Forall₂ (fun message f => message.Tells f.1 a.url file a.position f.2) messages failures

/-- Nothing is left open: the messages that report failures are the messages for them. -/
theorem Anchor.reports_iff {messages : List Diagnostic} {failures : List (String × EmbedError)} :
    a.Reports file messages failures ↔
      messages = failures.map fun f => .embedFailure f.1 a.url file a.position f.2 := by
  constructor
  · intro h
    induction h with
    | nil => rfl
    | cons htells _ ih => rw [List.map_cons, ← ih, Diagnostic.tells_iff.mp htells]
  · rintro rfl
    exact List.forall₂_map_left_iff.mpr
      (List.forall₂_same.mpr fun f _ => Diagnostic.tells_embedFailure f.1 a.url file a.position f.2)

/-- The link with what a transformer renders. -/
def Anchor.showing (a : Anchor) (x : Rendering) : Anchor := a.commit x.tag x.properties x.children

/-! ## One transformer -/

/-- A transformer that does not take the page hands the link on. -/
theorem offer_refused (h : t.accepts u s = (answer, s')) (hanswer : answer.guarded = .ok false) :
    offer file a u (t :: ts) s = offer file a u ts s' := by
  rw [offer, h]
  simp only [hanswer]

/-- One that cannot decide is reported, and the link is handed on. -/
theorem offer_failed (h : t.accepts u s = (answer, s')) (hanswer : answer.guarded = .error e) :
    offer file a u (t :: ts) s =
      ((offer file a u ts s').1.withFailure (.embedFailure t.name a.url file a.position e),
        (offer file a u ts s').2) := by
  rw [offer, h]
  simp only [hanswer]
  rfl

/-- One that takes the page and cannot give all parts of an embed is reported too. -/
theorem offer_unrendered (h : t.accepts u s = (answer, s')) (hanswer : answer.guarded = .ok true)
    (hrender : t.render u s' = .error e) :
    offer file a u (t :: ts) s =
      ((offer file a u ts s').1.withFailure (.embedFailure t.name a.url file a.position e),
        (offer file a u ts s').2) := by
  rw [offer, h]
  simp only [hanswer, hrender]
  rfl

/-- One that gives all parts of an embed settles the link. Nobody behind it is asked. -/
theorem offer_rendered (h : t.accepts u s = (answer, s')) (hanswer : answer.guarded = .ok true)
    (hrender : t.render u s' = .ok x) : offer file a u (t :: ts) s = (⟨a.showing x, []⟩, s') := by
  rw [offer, h]
  simp only [hanswer, hrender]
  rfl

/-! ## Verdicts -/

/-- What comes of offering a link to one transformer. -/
inductive Verdict where
  | refuses
  | fails (error : EmbedError)
  | renders (parts : Rendering)

/-- What capabilities make of a page. -/
def CustomTransformer.verdict (c : CustomTransformer) (u : Url) : Verdict :=
  match (c.accepts.evaluate u).guarded with
  | .error e => .fails e
  | .ok false => .refuses
  | .ok true =>
    match c.transformer.render u () with
    | .error e => .fails e
    | .ok x => .renders x

/-- What verdicts make of a link: the first that renders decides, and each failure before it leaves a
diagnostic. -/
def settle (file : Option String) (a : Anchor) (u : Url) : List CustomTransformer → LinkReport
  | [] => ⟨a, []⟩
  | c :: cs =>
    match c.verdict u with
    | .refuses => settle file a u cs
    | .fails e => (settle file a u cs).withFailure (.embedFailure c.name a.url file a.position e)
    | .renders x => ⟨a.showing x, []⟩

/-- What verdicts make of a link whose destination is still to be read. -/
def settleAnchor (file : Option String) (cs : List CustomTransformer) (a : Anchor) : LinkReport :=
  match Url.parse a.url with
  | .ok u => settle file a u cs
  | .error _ => ⟨a, []⟩

/-- A transformer that answers about a page as capabilities do, as long as what it remembers satisfies an
invariant, which it keeps. -/
structure Transformer.Follows (inv : σ → Prop) (u : Url) (t : Transformer σ) (c : CustomTransformer) : Prop where
  name : t.name = c.name
  accepts : ∀ s, inv s → (t.accepts u s).1 = c.accepts.evaluate u
  keeps : ∀ s, inv s → inv (t.accepts u s).2
  renders : ∀ s, inv s → c.accepts.evaluate u = .value true →
    t.render u (t.accepts u s).2 = c.transformer.render u ()

theorem Outcome.guarded_eq_ok {α : Type} {x : Outcome α} {v : α} (h : x.guarded = .ok v) : x = .value v := by
  cases x <;> simp_all [Outcome.guarded]

/-- Transformers that follow capabilities make of a link what the capabilities' verdicts say. -/
theorem offer_of_follows {inv : σ → Prop} {cs : List CustomTransformer}
    (h : List.Forall₂ (Transformer.Follows inv u) ts cs) (hs : inv s) :
    (offer file a u ts s).1 = settle file a u cs ∧ inv (offer file a u ts s).2 := by
  -- The induction is on the transformers; each leaves memory in which the invariant holds to the next.
  induction h generalizing s with
  | nil => exact ⟨rfl, hs⟩
  | @cons t c ts cs hfollows _ ih =>
    have hkeeps : inv (t.accepts u s).2 := hfollows.keeps s hs
    obtain ⟨hrest, hlast⟩ := ih hkeeps
    have haccepts : t.accepts u s = (c.accepts.evaluate u, (t.accepts u s).2) := by
      rw [← hfollows.accepts s hs]
    rw [settle, CustomTransformer.verdict]
    cases hanswer : (c.accepts.evaluate u).guarded with
    | error e =>
      rw [offer_failed haccepts hanswer, hfollows.name, hrest]
      exact ⟨rfl, hlast⟩
    | ok takes =>
      cases takes with
      | false =>
        rw [offer_refused haccepts hanswer]
        exact ⟨hrest, hlast⟩
      | true =>
        -- What it renders is settled only where it takes the page, with what it remembers by then.
        have hrenders := hfollows.renders s hs (Outcome.guarded_eq_ok hanswer)
        cases hparts : c.transformer.render u () with
        | error e =>
          rw [hparts] at hrenders
          rw [offer_unrendered haccepts hanswer hrenders, hfollows.name, hrest]
          exact ⟨rfl, hlast⟩
        | ok x =>
          rw [hparts] at hrenders
          rw [offer_rendered haccepts hanswer hrenders]
          exact ⟨rfl, hkeeps⟩

/-- The same for a link whose destination is still to be read. Only pages that a destination can be read as
count. -/
theorem resolveAnchor_of_follows {inv : σ → Prop} {cs : List CustomTransformer}
    (h : ∀ text u, Url.parse text = .ok u → List.Forall₂ (Transformer.Follows inv u) ts cs) (hs : inv s) :
    (resolveAnchor ts file a s).1 = settleAnchor file cs a ∧ inv (resolveAnchor ts file a s).2 := by
  unfold resolveAnchor settleAnchor
  cases hparse : Url.parse a.url with
  | error e => exact ⟨rfl, hs⟩
  | ok u => exact offer_of_follows (h a.url u hparse) hs

end LinkEmbed
