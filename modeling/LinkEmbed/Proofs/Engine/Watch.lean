import LinkEmbed.Proofs.Engine.Offer
import LinkEmbed.Proofs.Engine.Pass

/-!
# Watching transformers

Watched transformers do what they do anyway, and every decision they are asked for is written down. What is
written down accounts for a whole pass: memory goes from one call to the next and is touched by nobody else, and
each diagnostic belongs to one call.

* `offer_watched`, `resolveAnchor_watched` — for one link: watching adds calls to the record, which account for what
  becomes of the link.
* `visits_watched`, `chained_visits` — for a run of visits: the same visits are made, and the calls of one are
  followed by those of the next.
* `Document.becomes_after` — visits change what the visited links say, and nothing else.
* `Document.resolveWith_watched` — for a pass: what becomes of the document, what the receiver gets and what is
  remembered can all be read off the calls.
-/

namespace LinkEmbed

variable {ι σ : Type}

/-- A decision that a transformer was asked for: who was asked about which page, and the answer, with what was
remembered before and after. -/
structure Call (ι σ : Type) where
  number : ι
  url : Url
  before : σ
  answer : Outcome Bool
  after : σ

/-- The same transformer, with a record of all decisions it is asked for, the latest last. -/
def Transformer.watched (t : Transformer σ) (number : ι) : Transformer (σ × List (Call ι σ)) :=
  { name := t.name
    accepts := fun u s =>
      let (answer, after) := t.accepts u s.1
      (answer, after, s.2 ++ [⟨number, u, s.1, answer, after⟩])
    tagName := fun u s => t.tagName u s.1
    properties := fun u s => t.properties u s.1
    children := fun u s => t.children u s.1 }

/-- Memory goes from each call to the next. -/
def Chained : σ → List (Call ι σ) → σ → Prop
  | first, [], last => last = first
  | first, c :: calls, last => c.before = first ∧ Chained c.after calls last

/-- Calls that start where others end are chained with them. -/
theorem Chained.append {first middle last : σ} {calls more : List (Call ι σ)} (h : Chained first calls middle)
    (hmore : Chained middle more last) : Chained first (calls ++ more) last := by
  induction calls generalizing first with
  | nil =>
    obtain rfl : middle = first := h
    exact hmore
  | cons c calls ih => exact ⟨h.1, ih h.2⟩

namespace Call

/-- The error that a call comes to: that of the decision or, once the page is taken, of its rendering. -/
def failure? (t : Transformer σ) (c : Call ι σ) : Option EmbedError :=
  match c.answer.guarded with
  | .error e => some e
  | .ok false => none
  | .ok true =>
    match t.render c.url c.after with
    | .error e => some e
    | .ok _ => none

/-- The parts of an embed that a call comes to, once the page is taken and all of them are there. -/
def rendering? (t : Transformer σ) (c : Call ι σ) : Option Rendering :=
  match c.answer.guarded with
  | .ok true => (t.render c.url c.after).toOption
  | _ => none

variable (T : ι → Transformer σ)

/-- The call was answered by the transformer of its number. -/
def IsGenuine (c : Call ι σ) : Prop := (T c.number).accepts c.url c.before = (c.answer, c.after)

/-- The diagnostic that a call for a link leaves. -/
def diagnostic? (file : Option String) (a : Anchor) (c : Call ι σ) : Option Diagnostic :=
  (c.failure? (T c.number)).map fun e => .embedFailure (T c.number).name a.url file a.position e

variable {T} {c : Call ι σ} {file : Option String} {a : Anchor} {e : EmbedError}

theorem diagnostic?_of_refused (h : c.answer.guarded = .ok false) : c.diagnostic? T file a = none := by
  simp only [diagnostic?, failure?, h, Option.map_none]

theorem diagnostic?_of_failed (h : c.answer.guarded = .error e) :
    c.diagnostic? T file a = some (.embedFailure (T c.number).name a.url file a.position e) := by
  simp only [diagnostic?, failure?, h, Option.map_some]

theorem diagnostic?_of_unrendered (h : c.answer.guarded = .ok true)
    (hrender : (T c.number).render c.url c.after = .error e) :
    c.diagnostic? T file a = some (.embedFailure (T c.number).name a.url file a.position e) := by
  simp only [diagnostic?, failure?, h, hrender, Option.map_some]

theorem diagnostic?_of_rendered {x : Rendering} (h : c.answer.guarded = .ok true)
    (hrender : (T c.number).render c.url c.after = .ok x) : c.diagnostic? T file a = none := by
  simp only [diagnostic?, failure?, h, hrender, Option.map_none]

variable {t : Transformer σ} {x : Rendering}

theorem rendering?_of_unrendered (h : c.answer.guarded = .ok true) (hrender : t.render c.url c.after = .error e) :
    c.rendering? t = none := by
  simp only [rendering?, h, hrender, Except.toOption]

theorem rendering?_of_rendered (h : c.answer.guarded = .ok true) (hrender : t.render c.url c.after = .ok x) :
    c.rendering? t = some x := by
  simp only [rendering?, h, hrender, Except.toOption]

end Call

/-! ## One link -/

section

variable (T : ι → Transformer σ) (order : List ι) (file : Option String)

/-- Transformers in order, all watched. -/
def watchAll : List (Transformer (σ × List (Call ι σ))) := order.map fun i => (T i).watched i

/-- The calls that are made for a link. -/
def callsFor (a : Anchor) (s : σ) : List (Call ι σ) := (resolveAnchor (watchAll T order) file a (s, [])).2.2

/-- What a link `a` says after calls for it: what it said as long as none of them renders, and what the last
one renders. -/
inductive Shows (a : Anchor) : List (Call ι σ) → Anchor → Prop where
  | nothing : Shows a [] a
  | pass {c : Call ι σ} {calls : List (Call ι σ)} {b : Anchor} :
      c.rendering? (T c.number) = none → Shows a calls b → Shows a (c :: calls) b
  | last {c : Call ι σ} {x : Rendering} : c.rendering? (T c.number) = some x → Shows a [c] (a.showing x)

/-- Calls account for what came of a link. -/
structure Accounts (a : Anchor) (s : σ) (calls : List (Call ι σ)) (report : LinkReport) (s' : σ) : Prop where
  chained : Chained s calls s'
  genuine : ∀ c ∈ calls, c.IsGenuine T ∧ Url.parse a.url = .ok c.url
  diagnostics : report.diagnostics = calls.filterMap (Call.diagnostic? T file a)
  shows : Shows T a calls report.anchor

variable {T order file} {a : Anchor} {u : Url}

/-- One more call in front, which the link passes on from. -/
theorem Accounts.cons {c : Call ι σ} {s s' : σ} {calls : List (Call ι σ)} {report report' : LinkReport}
    (h : Accounts T file a c.after calls report s') (hbefore : c.before = s) (hgenuine : c.IsGenuine T)
    (hu : Url.parse a.url = .ok c.url) (hnone : c.rendering? (T c.number) = none)
    (hanchor : report'.anchor = report.anchor)
    (hreport : report'.diagnostics = (c.diagnostic? T file a).toList ++ report.diagnostics) :
    Accounts T file a s (c :: calls) report' s' where
  chained := ⟨hbefore, h.chained⟩
  genuine := List.forall_mem_cons.mpr ⟨⟨hgenuine, hu⟩, h.genuine⟩
  diagnostics := by
    rw [hreport, h.diagnostics, List.filterMap_cons]
    cases c.diagnostic? T file a <;> rfl
  shows := hanchor ▸ .pass hnone h.shows

/-- The only call, which renders the link. -/
theorem Accounts.last {c : Call ι σ} {s : σ} {x : Rendering} (hbefore : c.before = s) (hgenuine : c.IsGenuine T)
    (hu : Url.parse a.url = .ok c.url) (hx : c.rendering? (T c.number) = some x)
    (hreport : c.diagnostic? T file a = none) : Accounts T file a s [c] ⟨a.showing x, []⟩ c.after where
  chained := ⟨hbefore, rfl⟩
  genuine := List.forall_mem_cons.mpr ⟨⟨hgenuine, hu⟩, List.forall_mem_nil _⟩
  diagnostics := by rw [List.filterMap_cons, hreport, List.filterMap_nil]
  shows := .last hx

/-- The call to a transformer about a page. -/
def Call.made (T : ι → Transformer σ) (i : ι) (u : Url) (s : σ) : Call ι σ :=
  ⟨i, u, s, ((T i).accepts u s).1, ((T i).accepts u s).2⟩

/-- Watching transformers to which a link is offered changes nothing of what comes of it. It adds calls to the
record, and these account for the link. -/
structure Watches (T : ι → Transformer σ) (file : Option String) (a : Anchor) (u : Url) (order : List ι) (s : σ)
    (calls : List (Call ι σ)) : Prop where
  recorded : ∀ log, offer file a u (watchAll T order) (s, log) =
    ((offer file a u (order.map T) s).1, (offer file a u (order.map T) s).2, log ++ calls)
  accounts : Accounts T file a s calls (offer file a u (order.map T) s).1 (offer file a u (order.map T) s).2

variable {i : ι} {rest : List ι} {s : σ} {calls : List (Call ι σ)}

/-- A watched transformer answers as it does anyway, with the call written down. -/
theorem accepts_watched (log : List (Call ι σ)) : ((T i).watched i).accepts u (s, log) =
    ((Call.made T i u s).answer, (Call.made T i u s).after, log ++ [Call.made T i u s]) := rfl

namespace Watches

/-- A link that the first transformer passes on goes to the rest. What that transformer adds to the report is the
diagnostic of the call to it. -/
theorem pass (f : LinkReport → LinkReport) (hu : Url.parse a.url = .ok u)
    (h : Watches T file a u rest (Call.made T i u s).after calls)
    (hnone : (Call.made T i u s).rendering? (T i) = none) (hanchor : ∀ r, (f r).anchor = r.anchor)
    (hreport : ∀ r, (f r).diagnostics = ((Call.made T i u s).diagnostic? T file a).toList ++ r.diagnostics)
    -- Said for any memory, as it is used with the transformer itself and with the watched one.
    (hpassed : ∀ {τ : Type} {t : Transformer τ} {ts : List (Transformer τ)} {m m' : τ}, t.name = (T i).name →
      t.accepts u m = ((Call.made T i u s).answer, m') → t.render u m' = (T i).render u (Call.made T i u s).after →
      offer file a u (t :: ts) m = (f (offer file a u ts m').1, (offer file a u ts m').2)) :
    Watches T file a u (i :: rest) s (Call.made T i u s :: calls) where
  recorded log := by
    have hplain : offer file a u (T i :: rest.map T) s = _ := hpassed rfl rfl rfl
    have hwatched : offer file a u ((T i).watched i :: watchAll T rest) (s, log) = _ :=
      hpassed rfl (accepts_watched log) rfl
    rw [h.recorded, List.append_assoc, List.singleton_append] at hwatched
    rw [List.map_cons, hplain]
    exact hwatched
  accounts := by
    rw [List.map_cons, hpassed rfl rfl rfl]
    exact h.accounts.cons rfl rfl hu hnone (hanchor _) (hreport _)

/-- With a transformer that renders the link it is settled, and the call to it is the last. -/
theorem last {x : Rendering} (hu : Url.parse a.url = .ok u)
    (hanswer : (Call.made T i u s).answer.guarded = .ok true)
    (hx : (T i).render u (Call.made T i u s).after = .ok x) :
    Watches T file a u (i :: rest) s [Call.made T i u s] where
  recorded log := by
    have hplain : offer file a u (T i :: rest.map T) s = _ := offer_rendered rfl hanswer hx
    have hwatched : offer file a u ((T i).watched i :: watchAll T rest) (s, log) = _ :=
      offer_rendered (accepts_watched log) hanswer hx
    rw [List.map_cons, hplain]
    exact hwatched
  accounts := by
    have hrendering : (Call.made T i u s).rendering? (T i) = some x := Call.rendering?_of_rendered hanswer hx
    rw [List.map_cons, offer_rendered rfl hanswer hx]
    exact .last rfl rfl hu hrendering (Call.diagnostic?_of_rendered hanswer hx)

end Watches

/-- Offered to watched transformers, a link becomes what it becomes anyway, and there are calls that account
for it. -/
theorem offer_watched (T : ι → Transformer σ) (file : Option String) (hu : Url.parse a.url = .ok u)
    (order : List ι) (s : σ) : ∃ calls, Watches T file a u order s calls := by
  -- The induction is on the order; what is remembered changes from one transformer to the next.
  induction order generalizing s with
  | nil => exact ⟨[], fun log => by simp [watchAll, offer], rfl, List.forall_mem_nil _, rfl, .nothing⟩
  | cons i rest ih =>
    obtain ⟨calls, h⟩ := ih (Call.made T i u s).after
    let failure (e : EmbedError) : Diagnostic := .embedFailure (T i).name a.url file a.position e
    cases hanswer : (Call.made T i u s).answer.guarded with
    | error e =>
      refine ⟨_, h.pass (·.withFailure (failure e)) hu (by simp only [Call.rendering?, hanswer]) (fun _ => rfl) ?_ ?_⟩
      · intro r
        rw [Call.diagnostic?_of_failed hanswer]
        rfl
      · intro τ t ts m m' hname haccepts _
        rw [offer_failed haccepts hanswer, hname]
    | ok takes =>
      cases takes with
      | false =>
        refine ⟨_, h.pass id hu (by simp only [Call.rendering?, hanswer]) (fun _ => rfl) ?_ ?_⟩
        · intro r
          rw [Call.diagnostic?_of_refused hanswer]
          rfl
        · intro τ t ts m m' _ haccepts _
          exact offer_refused haccepts hanswer
      | true =>
        cases hrender : (T i).render u (Call.made T i u s).after with
        | ok x => exact ⟨_, .last hu hanswer hrender⟩
        | error e =>
          have hnone : (Call.made T i u s).rendering? (T i) = none := Call.rendering?_of_unrendered hanswer hrender
          refine ⟨_, h.pass (·.withFailure (failure e)) hu hnone (fun _ => rfl) ?_ ?_⟩
          · intro r
            rw [Call.diagnostic?_of_unrendered hanswer hrender]
            rfl
          · intro τ t ts m m' hname haccepts hsame
            rw [offer_unrendered haccepts hanswer (hsame.trans hrender), hname]

variable (T order file)

/-- The same for a link whose destination is still to be read. What cannot be read is offered to nobody. -/
theorem resolveAnchor_watched (a : Anchor) (s : σ) :
    (∀ log, resolveAnchor (watchAll T order) file a (s, log) =
      ((resolveAnchor (order.map T) file a s).1, (resolveAnchor (order.map T) file a s).2,
        log ++ callsFor T order file a s)) ∧
    Accounts T file a s (callsFor T order file a s) (resolveAnchor (order.map T) file a s).1
      (resolveAnchor (order.map T) file a s).2 := by
  unfold callsFor resolveAnchor
  cases hu : Url.parse a.url with
  | error e => exact ⟨fun log => by simp, rfl, List.forall_mem_nil _, rfl, .nothing⟩
  | ok u =>
    obtain ⟨calls, hcalls, haccounts⟩ := offer_watched T file hu order s
    constructor
    · intro log
      simp only [hcalls, List.nil_append]
    · simp only [hcalls, List.nil_append]
      exact haccounts

end

/-! ## A whole pass -/

section

variable (T : ι → Transformer σ) (order : List ι) (file : Option String)

/-- The calls that are made on a visit. -/
def Visit.calls (v : Visit σ) : List (Call ι σ) := callsFor T order file v.anchor v.before

/-- A run of visits is to the tasks it is given, in their order. -/
theorem map_task_visits (ts : List (Transformer σ)) (tasks : List (Path × Anchor)) (s : σ) :
    ((visits ts file tasks s).1.map fun v => (v.path, v.anchor)) = tasks := by
  induction tasks generalizing s with
  | nil => rfl
  | cons t rest ih =>
    obtain ⟨p, a⟩ := t
    rw [visits, List.map_cons, ih]

/-- What comes of each visit is accounted for by the calls that are made on it. -/
theorem accounts_of_mem_visits (tasks : List (Path × Anchor)) (s : σ) :
    ∀ v ∈ (visits (order.map T) file tasks s).1,
      Accounts T file v.anchor v.before (v.calls T order file) v.report v.after := by
  induction tasks generalizing s with
  | nil => exact List.forall_mem_nil _
  | cons t rest ih =>
    obtain ⟨p, a⟩ := t
    rw [visits]
    exact List.forall_mem_cons.mpr ⟨(resolveAnchor_watched T order file a s).2, ih _⟩

/-- Watched or not, the same visits are made, and between them the calls of all visits are written down. -/
theorem visits_watched (tasks : List (Path × Anchor)) (s : σ) (log : List (Call ι σ)) :
    ((visits (watchAll T order) file tasks (s, log)).1.map fun v => (v.path, v.report)) =
        (visits (order.map T) file tasks s).1.map (fun v => (v.path, v.report)) ∧
      (visits (watchAll T order) file tasks (s, log)).2 =
        ((visits (order.map T) file tasks s).2,
          log ++ (visits (order.map T) file tasks s).1.flatMap fun v => v.calls T order file) := by
  induction tasks generalizing s log with
  | nil => exact ⟨rfl, by simp [visits]⟩
  | cons t rest ih =>
    obtain ⟨p, a⟩ := t
    let after := (resolveAnchor (order.map T) file a s).2
    -- The later visits start from what the first leaves, watched or not.
    obtain ⟨hreports, hmemory⟩ := ih after (log ++ callsFor T order file a s)
    have hwatched := (resolveAnchor_watched T order file a s).1 log
    simp only [visits, hwatched, List.map_cons, List.flatMap_cons]
    constructor
    · rw [hreports]
    · rw [hmemory, List.append_assoc]
      rfl

/-- Memory goes through the calls of all visits, from the first to the last. -/
theorem chained_visits (tasks : List (Path × Anchor)) (s : σ) :
    Chained s ((visits (order.map T) file tasks s).1.flatMap fun v => v.calls T order file)
      (visits (order.map T) file tasks s).2 := by
  induction tasks generalizing s with
  | nil => rfl
  | cons t rest ih =>
    obtain ⟨p, a⟩ := t
    rw [visits, List.flatMap_cons]
    exact (resolveAnchor_watched T order file a s).2.chained.append (ih _)

end

/-- Only the reports of visits count for the document and its diagnostics. -/
theorem Resolution.after_congr {τ : Type} {vs : List (Visit σ)} {ws : List (Visit τ)}
    (h : (vs.map fun v => (v.path, v.report)) = ws.map fun w => (w.path, w.report)) (d : Document) (s last : σ)
    (t last' : τ) :
    (Resolution.after ⟨d, [], s⟩ vs last).document = (Resolution.after ⟨d, [], t⟩ ws last').document ∧
      (Resolution.after ⟨d, [], s⟩ vs last).reports = (Resolution.after ⟨d, [], t⟩ ws last').reports := by
  constructor
  · have hfold := congrArg (List.foldl (fun e (x : Path × LinkReport) =>
      Document.changeAnchor e x.1 fun _ => x.2.anchor) d) h
    rwa [List.foldl_map, List.foldl_map] at hfold
  · have hreports := congrArg (List.map fun x : Path × LinkReport => (x.1, x.2.diagnostics)) h
    rwa [List.map_map, List.map_map] at hreports

/-! ## Visits by path -/

section

variable {β : Type} {vs : List (Visit σ)}

/-- Looking up what visits give by path is finding the visit. -/
theorem lookup_map_path (vs : List (Visit σ)) (g : Visit σ → β) (p : Path) :
    (vs.map fun v => (v.path, g v)).lookup p = (vs.find? fun v => p == v.path).map g := by
  induction vs with
  | nil => rfl
  | cons v vs ih =>
    rw [List.map_cons, List.lookup_cons, List.find?_cons]
    by_cases h : p = v.path
    · simp [h]
    · have hne : (p == v.path) = false := beq_eq_false_iff_ne.mpr h
      rw [hne]
      exact ih

/-- With no path twice, each visit is found by its path. -/
theorem find?_path_of_mem (h : (vs.map Visit.path).Nodup) {v : Visit σ} (hv : v ∈ vs) :
    (vs.find? fun w => v.path == w.path) = some v := by
  induction vs with
  | nil => cases hv
  | cons w vs ih =>
    obtain ⟨hw, hvs⟩ := List.nodup_cons.mp h
    rw [List.find?_cons]
    rcases List.mem_cons.mp hv with rfl | hv
    · simp
    · have hne : (v.path == w.path) = false := by
        refine beq_eq_false_iff_ne.mpr fun heq => hw ?_
        exact List.mem_map.mpr ⟨v, hv, heq⟩
      rw [hne]
      exact ih hvs hv

/-- With no path twice, what visits give together can be said by path. -/
theorem flatMap_visits (h : (vs.map Visit.path).Nodup) (g : Visit σ → List β) :
    vs.flatMap g = (vs.map Visit.path).flatMap fun p => ((vs.find? fun v => p == v.path).map g).getD [] := by
  rw [List.flatMap_map]
  refine List.flatMap_congr fun v hv => ?_
  rw [find?_path_of_mem h hv]
  rfl

end

/-! ## Visits to the links of a document -/

section

variable (ts : List (Transformer σ)) (file : Option String) (d : Document) {links : List Path}

/-- Each eligible link is visited once, in the order given. -/
theorem map_path_visits (hlinks : links.Perm d.barePaths) (s : σ) :
    (visits ts file (d.tasks links) s).1.map Visit.path = links := by
  have htasks := congrArg (List.map Prod.fst) (map_task_visits file ts (d.tasks links) s)
  simpa [d.tasks_of_perm hlinks, Function.comp_def] using htasks

/-- A link is visited as it stands in the document. -/
theorem anchor?_of_mem_visits (links : List Path) (s : σ) :
    ∀ v ∈ (visits ts file (d.tasks links) s).1, d.anchor? v.path = some v.anchor := by
  intro v hv
  have hmem : (v.path, v.anchor) ∈ d.tasks links := by
    rw [← map_task_visits file ts (d.tasks links) s]
    exact List.mem_map.mpr ⟨v, hv, rfl⟩
  obtain ⟨p, -, hp⟩ := List.mem_filterMap.mp hmem
  obtain ⟨a, ha, heq⟩ := Option.map_eq_some_iff.mp hp
  obtain ⟨rfl, rfl⟩ : p = v.path ∧ a = v.anchor := by simpa using heq
  exact ha

/-- Visits to links as they stand in a document change what these links say. -/
theorem Document.becomes_after {vs : List (Visit σ)} (hvs : (vs.map Visit.path).Nodup)
    (hanchors : ∀ v ∈ vs, d.anchor? v.path = some v.anchor) (s last : σ) :
    d.Becomes (vs.map Visit.path) (fun p a b => ∃ v ∈ vs, v.path = p ∧ v.anchor = a ∧ v.report.anchor = b)
      (Resolution.after ⟨d, [], s⟩ vs last).document := by
  -- The visits in order are changes at their paths, as no path is visited twice.
  let change (p : Path) (a : Anchor) : Anchor :=
    ((vs.find? fun v => p == v.path).map fun v => v.report.anchor).getD a
  have hchange : ∀ v ∈ vs, change v.path = fun _ => v.report.anchor := by
    intro v hv
    simp only [change, find?_path_of_mem hvs hv, Option.map_some, Option.getD_some]
  have hafter : (Resolution.after ⟨d, [], s⟩ vs last).document =
      (vs.map Visit.path).foldl (fun d p => d.changeAnchor p (change p)) d := by
    rw [List.foldl_map]
    exact List.foldl_ext _ _ _ fun e v hv => by rw [hchange v hv]
  rw [hafter]
  refine ⟨Document.position_foldl_changeAnchor change d _, fun p hp => ?_, fun p hp => ?_⟩
  · rw [Document.shell?_foldl_changeAnchor change d hvs, if_neg hp]
  · obtain ⟨v, hv, rfl⟩ := List.mem_map.mp hp
    have hshell := Document.shell?_of_anchor? (hanchors v hv)
    refine ⟨v.anchor, v.report.anchor, hshell, ?_, v, hv, rfl, rfl, rfl⟩
    rw [Document.shell?_foldl_changeAnchor change d hvs, if_pos hp, hshell, hchange v hv]
    rfl

end

/-! ## The calls for each link -/

section

variable {ρ : Type} (T : ι → Transformer σ) (order : List ι) (sink : Sink ρ) (d : Document) {links : List Path}
  (s : σ) (r : ρ)

/-- The calls that are made for the link at a path while links are dealt with in an order. -/
def Document.callsAt (file : Option String) (links : List Path) (p : Path) : List (Call ι σ) :=
  (((visits (order.map T) file (d.tasks links) s).1.find? fun v => p == v.path).map
    (Visit.calls T order file)).getD []

variable (file : Option String)

section

variable (hlinks : links.Perm d.barePaths)
include hlinks

theorem nodup_path_visits : ((visits (order.map T) file (d.tasks links) s).1.map Visit.path).Nodup := by
  rw [map_path_visits _ file d hlinks s]
  exact hlinks.nodup_iff.mpr d.nodup_barePaths

/-- The calls at a path are those that are made on the visit to it. -/
theorem callsAt_of_mem_visits {v : Visit σ} (hv : v ∈ (visits (order.map T) file (d.tasks links) s).1) :
    d.callsAt T order s file links v.path = v.calls T order file := by
  rw [Document.callsAt, find?_path_of_mem (nodup_path_visits T order d s file hlinks) hv]
  rfl

/-- There is a visit to each link. -/
theorem exists_visit {p : Path} (hp : p ∈ links) :
    ∃ v ∈ (visits (order.map T) file (d.tasks links) s).1, v.path = p ∧ d.anchor? p = some v.anchor := by
  obtain ⟨v, hv, rfl⟩ := List.mem_map.mp ((map_path_visits (order.map T) file d hlinks s).symm ▸ hp)
  exact ⟨v, hv, rfl, anchor?_of_mem_visits _ file d links s v hv⟩

/-- The calls at all paths are those of all visits. -/
theorem flatMap_callsAt : links.flatMap (d.callsAt T order s file links) =
    (visits (order.map T) file (d.tasks links) s).1.flatMap (Visit.calls T order file) := by
  rw [flatMap_visits (nodup_path_visits T order d s file hlinks), map_path_visits _ file d hlinks s]
  rfl

/-- A pass is what its visits come to. -/
theorem resolveWith_eq_after (ts : List (Transformer σ)) : d.resolveWith ts sink links s r =
    let result := Resolution.after ⟨d, [], s⟩ (visits ts (sink.path? r) (d.tasks links) s).1
      (visits ts (sink.path? r) (d.tasks links) s).2
    ⟨result.document, result.memory, (result.diagnostics d.barePaths).foldl sink.receive r⟩ := by
  rw [d.resolveWith_eq ts sink hlinks s r, visits_of_pass _ _ d (hlinks.nodup_iff.mpr d.nodup_barePaths)]

/-- The same reports make the same document and the same diagnostics, watched or not. -/
theorem resolveWith_watchAll : d.resolveWith (watchAll T order) sink links (s, []) r =
    ⟨(d.resolveWith (order.map T) sink links s r).document,
      ((d.resolveWith (order.map T) sink links s r).memory,
        links.flatMap (d.callsAt T order s (sink.path? r) links)),
      (d.resolveWith (order.map T) sink links s r).receiver⟩ := by
  obtain ⟨hreports, hmemory⟩ := visits_watched T order (sink.path? r) (d.tasks links) s []
  obtain ⟨hdocument, hreported⟩ := Resolution.after_congr hreports d
    (s, []) (visits (watchAll T order) (sink.path? r) (d.tasks links) (s, [])).2
    s (visits (order.map T) (sink.path? r) (d.tasks links) s).2
  rw [resolveWith_eq_after sink d (s, []) r hlinks, resolveWith_eq_after sink d s r hlinks,
    flatMap_callsAt T order d s (sink.path? r) hlinks]
  simp only [Resolution.diagnostics]
  rw [hdocument, hreported]
  exact congrArg (Outgoing.mk _ · _) hmemory

/-- Memory goes through the calls at all paths, from before the pass to after it. -/
theorem chained_callsAt : Chained s (links.flatMap (d.callsAt T order s (sink.path? r) links))
    (d.resolveWith (order.map T) sink links s r).memory := by
  rw [flatMap_callsAt T order d s (sink.path? r) hlinks, resolveWith_eq_after sink d s r hlinks]
  exact chained_visits T order (sink.path? r) (d.tasks links) s

/-- The calls at a path account for the visit to it. -/
theorem exists_accounts {p : Path} (hp : p ∈ links) : ∃ v ∈ (visits (order.map T) file (d.tasks links) s).1,
    v.path = p ∧ d.anchor? p = some v.anchor ∧
      Accounts T file v.anchor v.before (d.callsAt T order s file links p) v.report v.after := by
  obtain ⟨v, hv, rfl, ha⟩ := exists_visit T order d s file hlinks hp
  refine ⟨v, hv, rfl, ha, ?_⟩
  rw [callsAt_of_mem_visits T order d s file hlinks hv]
  exact accounts_of_mem_visits T order file _ s v hv

/-- The receiver gets the diagnostics of the calls, by the paths of the links. -/
theorem receiver_of_callsAt : (d.resolveWith (order.map T) sink links s r).receiver =
    (d.barePaths.flatMap fun p => ((d.anchor? p).map fun a =>
      (d.callsAt T order s (sink.path? r) links p).filterMap
        (Call.diagnostic? T (sink.path? r) a)).getD []).foldl sink.receive r := by
  rw [resolveWith_eq_after sink d s r hlinks]
  refine congrArg (List.foldl sink.receive r) (List.flatMap_congr fun p hp => ?_)
  obtain ⟨v, hv, rfl, ha, haccounts⟩ := exists_accounts T order d s (sink.path? r) hlinks
    (hlinks.mem_iff.mpr hp)
  simp only [Resolution.after, List.nil_append, lookup_map_path]
  rw [find?_path_of_mem (nodup_path_visits T order d s (sink.path? r) hlinks) hv, ha]
  exact haccounts.diagnostics

/-- Each link shows what the calls for it come to. -/
theorem becomes_of_callsAt : d.Becomes links
    (fun p a b => Shows T a (d.callsAt T order s (sink.path? r) links p) b)
    (d.resolveWith (order.map T) sink links s r).document := by
  have hbecomes := d.becomes_after (nodup_path_visits T order d s (sink.path? r) hlinks)
    (anchor?_of_mem_visits _ (sink.path? r) d links s) s
    (visits (order.map T) (sink.path? r) (d.tasks links) s).2
  rw [map_path_visits _ _ d hlinks s] at hbecomes
  rw [resolveWith_eq_after sink d s r hlinks]
  refine hbecomes.imp fun p hp a b => ?_
  rintro ⟨v, hv, rfl, rfl, rfl⟩
  rw [callsAt_of_mem_visits T order d s (sink.path? r) hlinks hv]
  exact (accounts_of_mem_visits T order (sink.path? r) _ s v hv).shows

end

end

/-- A pass with watched transformers does what the pass does without them. There are calls for each link that
account for the pass: memory goes from one to the next, the receiver gets the diagnostics of the calls for the
links in their order, and each link shows what the last call for it renders. -/
theorem Document.resolveWith_watched {ρ : Type} (T : ι → Transformer σ) (order : List ι) (sink : Sink ρ)
    (d : Document) {links : List Path} (hlinks : links.Perm d.barePaths) (s : σ) (r : ρ) :
    ∃ calls : Path → List (Call ι σ),
      d.resolveWith (watchAll T order) sink links (s, []) r =
        ⟨(d.resolveWith (order.map T) sink links s r).document,
          ((d.resolveWith (order.map T) sink links s r).memory, links.flatMap calls),
          (d.resolveWith (order.map T) sink links s r).receiver⟩ ∧
      Chained s (links.flatMap calls) (d.resolveWith (order.map T) sink links s r).memory ∧
      (∀ p ∈ links, ∀ c ∈ calls p, c.IsGenuine T ∧ ∃ a, d.anchor? p = some a ∧ Url.parse a.url = .ok c.url) ∧
      (d.resolveWith (order.map T) sink links s r).receiver =
        (d.barePaths.flatMap fun p => ((d.anchor? p).map fun a =>
          (calls p).filterMap (Call.diagnostic? T (sink.path? r) a)).getD []).foldl sink.receive r ∧
      d.Becomes links (fun p a b => Shows T a (calls p) b)
        (d.resolveWith (order.map T) sink links s r).document := by
  refine ⟨d.callsAt T order s (sink.path? r) links, resolveWith_watchAll T order sink d s r hlinks,
    chained_callsAt T order sink d s r hlinks, fun p hp c hc => ?_, receiver_of_callsAt T order sink d s r hlinks,
    becomes_of_callsAt T order sink d s r hlinks⟩
  obtain ⟨v, -, -, ha, haccounts⟩ := exists_accounts T order d s (sink.path? r) hlinks hp
  obtain ⟨hgenuine, hu⟩ := haccounts.genuine c hc
  exact ⟨hgenuine, v.anchor, ha, hu⟩

end LinkEmbed
