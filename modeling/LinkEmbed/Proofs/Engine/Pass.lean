import LinkEmbed.Proofs.Document.Eligible
import LinkEmbed.Resolve

/-!
# A pass over the links of a document

What is done at one path changes no link at another, so dealing with links one after another is dealing with each
as it stood at the start.

* `Document.shell?_foldl_changeAnchor` — changes at distinct paths do not meet.
* `visits_of_pass` — a pass is a visit to each link as it stands at the start.
* `Resolution.of_uniform`, `Document.resolveWith_of_uniform` — when no link's report depends on what the
  transformers remember, as long as that satisfies an invariant, the order does not matter, and the outcome is said
  link by link.
* `Document.resolveWith_eq` — a pass without transformers is no exception.
* `Document.record_of_resolveWith` — what every link adds to a record is added in the order of the pass.
-/

namespace LinkEmbed

variable {σ : Type}

/-- Change what all links that may be embedded say, each by itself. -/
def Document.settled (d : Document) (f : Anchor → Anchor) : Document :=
  d.barePaths.foldl (fun d p => d.changeAnchor p f) d

/-- The links at some paths, with their paths. -/
def Document.tasks (d : Document) (order : List Path) : List (Path × Anchor) :=
  order.filterMap fun p => (d.anchor? p).map (Prod.mk p)

/-- A link that was dealt with: where and what it was, what was remembered before, what came of it, and what
is remembered after. -/
structure Visit (σ : Type) where
  path : Path
  anchor : Anchor
  before : σ
  report : LinkReport
  after : σ

/-- Deal with links one after another, with memory handed on. -/
def visits (ts : List (Transformer σ)) (file : Option String) : List (Path × Anchor) → σ → List (Visit σ) × σ
  | [], s => ([], s)
  | (p, a) :: rest, s =>
    let (report, after) := resolveAnchor ts file a s
    let (vs, last) := visits ts file rest after
    (⟨p, a, s, report, after⟩ :: vs, last)

/-! ## Changes at several paths -/

section

variable (f : Path → Anchor → Anchor)

/-- Changing links leaves the position of the document. -/
theorem Document.position_foldl_changeAnchor (d : Document) (order : List Path) :
    (order.foldl (fun d p => d.changeAnchor p (f p)) d).position = d.position := by
  induction order generalizing d with
  | nil => rfl
  | cons p rest ih => exact ih (d.changeAnchor p (f p))

/-- Changes at distinct paths do not meet. -/
theorem Document.shell?_foldl_changeAnchor (d : Document) {order : List Path} (h : order.Nodup) (p : Path) :
    (order.foldl (fun d p => d.changeAnchor p (f p)) d).shell? p =
      if p ∈ order then (d.shell? p).map (Node.mapAnchor (f p)) else d.shell? p := by
  induction order generalizing d with
  | nil => simp
  | cons q rest ih =>
    obtain ⟨hq, hrest⟩ := List.nodup_cons.mp h
    rw [List.foldl_cons, ih _ hrest, Document.shell?_changeAnchor]
    by_cases hp : p = q
    · subst hp
      simp [hq]
    · simp [hp]

end

theorem Document.position_settled (d : Document) (f : Anchor → Anchor) :
    (d.settled f).position = d.position :=
  Document.position_foldl_changeAnchor (fun _ => f) d d.barePaths

/-- After all eligible links are changed: what stands at each path. -/
theorem Document.shell?_settled (d : Document) (f : Anchor → Anchor) (p : Path) :
    (d.settled f).shell? p =
      if p ∈ d.barePaths then (d.shell? p).map (Node.mapAnchor f) else d.shell? p :=
  Document.shell?_foldl_changeAnchor (fun _ => f) d d.nodup_barePaths p

/-- Links that say what they said make no change. -/
theorem Document.settled_self (d : Document) : d.settled (fun a => a) = d := by
  refine Document.eq_of_shell? (d.position_settled _) fun p => ?_
  have hid : Node.mapAnchor (fun a => a) = id := funext Node.mapAnchor_id
  rw [Document.shell?_settled, hid, Option.map_id, id, ite_self]

/-! ## Tasks -/

theorem Document.anchor?_changeAnchor_of_ne (d : Document) (f : Anchor → Anchor) {p q : Path} (h : p ≠ q) :
    (d.changeAnchor q f).anchor? p = d.anchor? p := by
  simp [Document.anchor?, Document.shell?_changeAnchor, h]

/-- A change at another path leaves tasks as they are. -/
theorem Document.tasks_changeAnchor (d : Document) (f : Anchor → Anchor) {order : List Path} {q : Path}
    (h : q ∉ order) : (d.changeAnchor q f).tasks order = d.tasks order := by
  refine List.filterMap_congr fun p hp => ?_
  rw [Document.anchor?_changeAnchor_of_ne]
  rintro rfl
  exact h hp

theorem Document.link?_eq_none_iff (d : Document) (p : Path) : d.link? p = none ↔ d.anchor? p = none := by
  simp [Document.anchor?_eq_link?]

/-- What tasks give together, by path. -/
theorem Document.flatMap_tasks {β : Type} (d : Document) (order : List Path) (g : Anchor → List β) :
    (d.tasks order).flatMap (fun t => g t.2) = order.flatMap fun p => ((d.anchor? p).map g).getD [] := by
  unfold tasks
  induction order with
  | nil => rfl
  | cons p rest ih => cases ha : d.anchor? p <;> simp [ha, ih]

/-- A task at an eligible path is a link that stands there. -/
theorem Document.anchor?_of_mem_barePaths {d : Document} {p : Path} (h : p ∈ d.barePaths) :
    ∃ a, d.anchor? p = some a := by
  obtain ⟨l, hl, -⟩ := Document.bare_of_mem_barePaths h
  exact ⟨l.toAnchor, by rw [Document.anchor?_eq_link?, hl, Option.map_some]⟩

/-- What stands at an eligible path before and after all links were changed. -/
theorem Document.link_of_mem_barePaths {d : Document} {p : Path} (h : p ∈ d.barePaths) (f : Anchor → Anchor) :
    ∃ a, d.anchor? p = some a ∧ d.shell? p = some (.link a []) ∧
      (d.settled f).shell? p = some (.link (f a) []) := by
  obtain ⟨a, ha⟩ := Document.anchor?_of_mem_barePaths h
  have hshell := Document.shell?_of_anchor? ha
  refine ⟨a, ha, hshell, ?_⟩
  rw [Document.shell?_settled, if_pos h, hshell]
  rfl

/-- There is a task for each eligible path. -/
theorem Document.tasks_of_perm (d : Document) {order : List Path} (horder : order.Perm d.barePaths) :
    d.tasks order = order.map fun p => (p, (d.anchor? p).getD default) := by
  rw [Document.tasks, ← List.filterMap_eq_map]
  refine List.filterMap_congr fun p hp => ?_
  obtain ⟨a, ha⟩ := Document.anchor?_of_mem_barePaths (horder.mem_iff.mp hp)
  simp [ha]

/-! ## The pass as visits -/

/-- The document, the reports and the memory after a list of visits. -/
def Resolution.after (r : Resolution σ) (vs : List (Visit σ)) (s : σ) : Resolution σ :=
  { document := vs.foldl (fun d v => d.changeAnchor v.path fun _ => v.report.anchor) r.document
    reports := r.reports ++ vs.map fun v => (v.path, v.report.diagnostics)
    memory := s }

/-- From any stage of a pass, the rest of it is visits to the links as they stand at that stage. -/
theorem foldl_step_eq_visits (ts : List (Transformer σ)) (file : Option String) {order : List Path}
    (h : order.Nodup) (r : Resolution σ) :
    order.foldl (Resolution.step ts file) r =
      let run := visits ts file (r.document.tasks order) r.memory
      r.after run.1 run.2 := by
  -- The links that are still to be dealt with stand as they stood at the start.
  induction order generalizing r with
  | nil => simp [Document.tasks, visits, Resolution.after]
  | cons p rest ih =>
    obtain ⟨hp, hrest⟩ := List.nodup_cons.mp h
    rw [List.foldl_cons, ih hrest]
    cases hl : r.document.link? p with
    | none =>
      have ha : r.document.anchor? p = none := (r.document.link?_eq_none_iff p).mp hl
      -- No link stands at the path: it is no task, and the step does nothing.
      simp [Resolution.step, hl, Document.tasks, ha]
    | some l =>
      have ha : r.document.anchor? p = some l.toAnchor := by simp [Document.anchor?_eq_link?, hl]
      have htasks : r.document.tasks (p :: rest) = (p, l.toAnchor) :: r.document.tasks rest := by
        simp [Document.tasks, ha]
      rw [htasks]
      -- The step changes the link at `p` alone, which is not among the rest.
      simp only [Resolution.step, hl, visits, Resolution.after, Document.tasks_changeAnchor _ _ hp,
        List.foldl_cons, List.map_cons, List.append_assoc, List.singleton_append]

/-- A pass is a visit to each link as it stands at the start. -/
theorem visits_of_pass (ts : List (Transformer σ)) (file : Option String) (d : Document) {order : List Path}
    (h : order.Nodup) (s : σ) :
    d.resolveInOrder ts file order s =
      let run := visits ts file (d.tasks order) s
      (Resolution.after ⟨d, [], s⟩ run.1 run.2) :=
  foldl_step_eq_visits ts file h ⟨d, [], s⟩

/-- What every link adds to a record is added link by link. -/
theorem record_of_visits {β : Type} {ts : List (Transformer σ)} {file : Option String} {record : σ → List β}
    {adds : Anchor → List β} (h : ∀ a s, record (resolveAnchor ts file a s).2 = record s ++ adds a)
    (tasks : List (Path × Anchor)) (s : σ) :
    record (visits ts file tasks s).2 = record s ++ tasks.flatMap (fun t => adds t.2) := by
  induction tasks generalizing s with
  | nil => simp [visits]
  | cons t rest ih =>
    obtain ⟨p, a⟩ := t
    rw [visits, ih, h, List.append_assoc, List.flatMap_cons]

/-! ## Visits whose reports do not depend on what is remembered -/

section

variable {ts : List (Transformer σ)} {file : Option String} {inv : σ → Prop} {out : Anchor → LinkReport}

/-- What a report is, and that dealing with a link keeps the invariant. -/
def IsUniform (ts : List (Transformer σ)) (file : Option String) (inv : σ → Prop)
    (out : Anchor → LinkReport) : Prop :=
  ∀ a s, inv s → (resolveAnchor ts file a s).1 = out a ∧ inv (resolveAnchor ts file a s).2

/-- A run of visits gives the reports that are foreseen, and keeps the invariant. -/
theorem visits_of_uniform (h : IsUniform ts file inv out) (tasks : List (Path × Anchor)) {s : σ}
    (hs : inv s) :
    ((visits ts file tasks s).1.map fun v => (v.path, v.report)) = tasks.map (fun t => (t.1, out t.2)) ∧
      inv (visits ts file tasks s).2 := by
  induction tasks generalizing s with
  | nil => exact ⟨rfl, hs⟩
  | cons t rest ih =>
    obtain ⟨p, a⟩ := t
    obtain ⟨hreport, hafter⟩ := h a s hs
    obtain ⟨hrest, hlast⟩ := ih hafter
    exact ⟨by simp [visits, hreport, hrest], hlast⟩

/-- Looking a path up among results by path. -/
theorem lookup_filterMap_mk {α : Type} (g : Path → Option α) (order : List Path) (p : Path) :
    (order.filterMap fun q => (g q).map (Prod.mk q)).lookup p = if p ∈ order then g p else none := by
  induction order with
  | nil => rfl
  | cons q rest ih =>
    by_cases hp : p = q
    · subst hp
      cases hg : g p with
      | none => simp [hg, ih]
      | some a => simp [hg]
    · have hb : (p == q) = false := by simpa using hp
      cases hg : g q with
      | none => simp [hg, ih, hp]
      | some a => simp [hg, ih, hp, List.lookup_cons, hb]

/-- Changing the anchors of tasks is changing the links at their paths. -/
theorem foldl_tasks_eq_settled (d : Document) (f : Anchor → Anchor) {order : List Path}
    (horder : order.Perm d.barePaths) :
    (d.tasks order).foldl (fun e t => e.changeAnchor t.1 fun _ => f t.2) d = d.settled f := by
  have hnodup : order.Nodup := horder.nodup_iff.mpr d.nodup_barePaths
  rw [d.tasks_of_perm horder, List.foldl_map]
  -- Both documents have the same shell at each path.
  apply Document.eq_of_shell?
  · rw [Document.position_settled]
    exact Document.position_foldl_changeAnchor (fun p _ => f ((d.anchor? p).getD default)) d order
  · intro p
    rw [Document.shell?_settled,
      Document.shell?_foldl_changeAnchor (fun p _ => f ((d.anchor? p).getD default)) d hnodup]
    simp only [horder.mem_iff]
    split
    · cases hn : d.shell? p with
      | none => rfl
      | some n =>
        refine congrArg some (Node.mapAnchor_congr fun a ha => ?_)
        simp [Document.anchor?, hn, ha]
    · rfl

/-- In whatever order the eligible links are dealt with: each says what its report says, the diagnostics are
those of the reports in document order, and all else is as it was. -/
theorem Resolution.of_uniform (h : IsUniform ts file inv out) (d : Document) {order : List Path}
    (horder : order.Perm d.barePaths) {s : σ} (hs : inv s) :
    (d.resolveInOrder ts file order s).document = d.settled (fun a => (out a).anchor) ∧
      (d.resolveInOrder ts file order s).diagnostics d.barePaths =
        d.barePaths.flatMap (fun p => ((d.anchor? p).map fun a => (out a).diagnostics).getD []) ∧
      inv (d.resolveInOrder ts file order s).memory := by
  have hnodup : order.Nodup := horder.nodup_iff.mpr d.nodup_barePaths
  obtain ⟨hvisits, hmemory⟩ := visits_of_uniform h (d.tasks order) hs
  rw [visits_of_pass ts file d hnodup]
  refine ⟨?_, ?_, hmemory⟩
  · -- The document depends on the reports of the visits only.
    have hfold := congrArg (List.foldl (fun e (x : Path × LinkReport) =>
      Document.changeAnchor e x.1 fun _ => x.2.anchor) d) hvisits
    rw [List.foldl_map, List.foldl_map] at hfold
    exact hfold.trans (foldl_tasks_eq_settled d (fun a => (out a).anchor) horder)
  · have hreports : ((visits ts file (d.tasks order) s).1.map fun v => (v.path, v.report.diagnostics)) =
        order.filterMap fun p => ((d.anchor? p).map fun a => (out a).diagnostics).map (Prod.mk p) := by
      have := congrArg (List.map fun x : Path × LinkReport => (x.1, x.2.diagnostics)) hvisits
      simpa [Document.tasks, List.map_filterMap, Function.comp_def] using this
    -- Diagnostics are looked up by path, in document order, whatever the order of the pass.
    refine List.flatMap_congr fun p hp => ?_
    simp only [Resolution.after, List.nil_append, hreports, lookup_filterMap_mk,
      if_pos (horder.mem_iff.mpr hp)]

end

/-- Without transformers there is nothing to do, so a pass need not make an exception of it. -/
theorem Document.resolveWith_eq {ρ : Type} (ts : List (Transformer σ)) (sink : Sink ρ) (d : Document)
    {order : List Path} (horder : order.Perm d.barePaths) (s : σ) (r : ρ) :
    d.resolveWith ts sink order s r =
      let result := d.resolveInOrder ts (sink.path? r) order s
      ⟨result.document, result.memory, (result.diagnostics d.barePaths).foldl sink.receive r⟩ := by
  cases ts with
  | cons t ts => rfl
  | nil =>
    -- Nobody answers, so each link is left alone and nothing is remembered.
    have huniform : IsUniform [] (sink.path? r) (fun s' => s' = s) fun a => ⟨a, []⟩ := by
      rintro a _ rfl
      unfold resolveAnchor
      cases Url.parse a.url <;> exact ⟨rfl, rfl⟩
    obtain ⟨hdocument, hmessages, hmemory⟩ := Resolution.of_uniform huniform d horder rfl
    have hnone : d.barePaths.flatMap
        (fun p => ((d.anchor? p).map fun _ => ([] : List Diagnostic)).getD []) = [] := by
      refine List.flatMap_eq_nil_iff.mpr fun p _ => ?_
      cases d.anchor? p <;> rfl
    have hempty : ([] : List (Transformer σ)).isEmpty = true := rfl
    rw [Document.resolveWith, if_pos hempty]
    simp only [hdocument, hmessages, hmemory, hnone, d.settled_self, List.foldl_nil]

/-- The same for a whole pass over a document: what becomes of it, and what the receiver gets. -/
theorem Document.resolveWith_of_uniform {ρ : Type} {ts : List (Transformer σ)} {inv : σ → Prop}
    {out : Anchor → LinkReport} (sink : Sink ρ) (d : Document) {order : List Path} {s : σ} {r : ρ}
    (h : IsUniform ts (sink.path? r) inv out) (horder : order.Perm d.barePaths) (hs : inv s) :
    (d.resolveWith ts sink order s r).document = d.settled (fun a => (out a).anchor) ∧
      (d.resolveWith ts sink order s r).receiver =
        (d.barePaths.flatMap fun p => ((d.anchor? p).map fun a => (out a).diagnostics).getD []).foldl
          sink.receive r ∧
      inv (d.resolveWith ts sink order s r).memory := by
  obtain ⟨hdocument, hmessages, hmemory⟩ := Resolution.of_uniform h d horder hs
  rw [Document.resolveWith_eq ts sink d horder]
  exact ⟨hdocument, congrArg (List.foldl sink.receive r) hmessages, hmemory⟩

/-- What every link adds to a record in a whole pass. -/
theorem Document.record_of_resolveWith {ρ β : Type} {ts : List (Transformer σ)} (record : σ → List β)
    {adds : Anchor → List β} (sink : Sink ρ) (d : Document) {order : List Path} {s : σ} {r : ρ}
    (h : ∀ a s, record (resolveAnchor ts (sink.path? r) a s).2 = record s ++ adds a)
    (horder : order.Perm d.barePaths) :
    record (d.resolveWith ts sink order s r).memory =
      record s ++ order.flatMap fun p => ((d.anchor? p).map adds).getD [] := by
  have hnodup : order.Nodup := horder.nodup_iff.mpr d.nodup_barePaths
  rw [Document.resolveWith_eq ts sink d horder, visits_of_pass ts (sink.path? r) d hnodup]
  rw [← Document.flatMap_tasks]
  exact record_of_visits h (d.tasks order) s

end LinkEmbed
