import LinkEmbed.Config
import LinkEmbed.Proofs.Session.Again

/-!
# Names that are repeated

Settings name the strategies in the order in which they are tried, and a name may stand there more than once.
Every mention gets a strategy of its own, with a cache of its own. When all sources answer by the URL
alone, what a strategy makes of a page is the same at every mention, so a page that came past the first mention
comes past the others too, and no link becomes anything else for them.

* `build_eq`, `build_of_known`, `build_of_unknown` — an embedder is built for all names, or the first that is not known
  is in the way.
* `findSome?_eraseDups` — of repeated values only the first counts for a search.
* `document_congr` — documents become the same where the first that render a page render it the same.
* `repeated_names_change_nothing` — so repeated names change no document, in any session.
-/

namespace LinkEmbed

/-! ## The first rendering -/

/-- What capabilities make of a page, if they render it. -/
def CustomTransformer.rendering? (c : CustomTransformer) (u : Url) : Option Rendering :=
  match c.verdict u with
  | .renders x => some x
  | _ => none

/-- What becomes of a page is what the first of the capabilities makes of it that makes anything of it. -/
theorem rendering_pageOutcome (u : Url) (cs : List CustomTransformer) :
    (pageOutcome u cs).rendering = cs.findSome? fun c => c.rendering? u := by
  induction cs with
  | nil => rfl
  | cons c cs ih =>
    rw [pageOutcome, List.findSome?_cons, CustomTransformer.rendering?]
    cases c.verdict u with
    | refuses => exact ih
    | fails e => exact ih
    | renders x => rfl

section

variable {cs cs' : List CustomTransformer} {file file' : Option String}

/-- A link becomes the same by capabilities of which the first that render a page render it the same. -/
theorem anchor_settleAnchor_congr
    (h : ∀ u, (cs.findSome? fun c => c.rendering? u) = cs'.findSome? fun c => c.rendering? u) (a : Anchor) :
    (settleAnchor file cs a).anchor = (settleAnchor file' cs' a).anchor := by
  rw [settleAnchor_eq, settleAnchor_eq]
  have hrendering : (destinationOutcome cs a.url).rendering = (destinationOutcome cs' a.url).rendering := by
    unfold destinationOutcome
    cases Url.parse a.url with
    | ok u => exact (rendering_pageOutcome u cs).trans ((h u).trans (rendering_pageOutcome u cs').symm)
    | error e => rfl
  simp only [PageOutcome.anchor, hrendering]

end

section

variable {α β : Type} [BEq α] [LawfulBEq α] {f : α → Option β}

/-- What is found in a list is not found at a value for which there is nothing. -/
theorem findSome?_filter_ne {a : α} (ha : f a = none) (l : List α) :
    (l.filter fun b => !b == a).findSome? f = l.findSome? f := by
  induction l with
  | nil => rfl
  | cons b l ih =>
    by_cases hb : b == a
    · rw [List.filter_cons_of_neg (by simp [hb]), List.findSome?_cons, eq_of_beq hb, ha, ih]
    · rw [List.filter_cons_of_pos (by simp [hb]), List.findSome?_cons, List.findSome?_cons, ih]

/-- Repetitions make no difference for what is found first: if there is nothing for a value at its first mention,
there is nothing for it at any. -/
theorem findSome?_eraseDups (f : α → Option β) (l : List α) : l.eraseDups.findSome? f = l.findSome? f := by
  match l with
  | [] => rfl
  | a :: l =>
    rw [List.eraseDups_cons, List.findSome?_cons, List.findSome?_cons, findSome?_eraseDups f]
    cases ha : f a with
    | some b => rfl
    | none => exact findSome?_filter_ne ha l
termination_by l.length
decreasing_by
  -- What follows is looked at without the mentions of the first value.
  exact Nat.lt_succ_of_le (List.length_filter_le _ _)

end

/-! ## What settings build -/

namespace EmbedConfig

/-- A name by which strategies are built. -/
def IsKnown (name : String) : Prop := name = "oembed" ∨ name = "link-card"

instance : DecidablePred IsKnown := fun name => inferInstanceAs (Decidable (name = "oembed" ∨ name = "link-card"))

section

variable (c : EmbedConfig) (fetcher : Fetcher Metadata) (status : Fetcher OEmbed)

/-- The strategy of a known name. -/
def named (name : String) : Strategy :=
  if name = OEmbedDocuments.name then .documents { fetcher, preset := c.preset status }
  else .cards { fetcher, preset := c.cardStyle.preset }

/-- A known name has its strategy. -/
theorem strategy_of_known {name : String} (h : IsKnown name) :
    c.strategy fetcher status name = .ok (c.named fetcher status name) := by
  rcases h with rfl | rfl <;> rfl

/-- Any other name is refused. -/
theorem strategy_of_unknown {name : String} (h : ¬ IsKnown name) :
    c.strategy fetcher status name = .error (.config ("unknown transformer `" ++ name ++ "`")) := by
  have hdocuments : name ≠ OEmbedDocuments.name := fun h' => h (.inl h')
  have hcards : name ≠ LinkCards.name := fun h' => h (.inr h')
  rw [strategy, if_neg hdocuments, if_neg hcards]

theorem name_named {name : String} (h : IsKnown name) : (c.named fetcher status name).name = name := by
  rcases h with rfl | rfl <;> rfl

/-- Strategies are built up to the first name that is not known. -/
theorem mapM_strategy (names : List String) :
    names.mapM (c.strategy fetcher status) =
      match names.find? fun name => ¬ IsKnown name with
      | some name => .error (.config ("unknown transformer `" ++ name ++ "`"))
      | none => .ok (names.map (c.named fetcher status)) := by
  induction names with
  | nil => rfl
  | cons name names ih =>
    rw [List.mapM_cons, ih]
    by_cases h : IsKnown name
    · rw [strategy_of_known c fetcher status h, List.find?_cons_of_neg (by simpa using h)]
      cases names.find? fun name => ¬ IsKnown name <;> rfl
    · rw [strategy_of_unknown c fetcher status h, List.find?_cons_of_pos (by simpa using h)]
      rfl

/-- The list that is built, or the name that is in the way. -/
theorem build_eq :
    c.build fetcher status =
      match c.order.find? fun name => ¬ IsKnown name with
      | some name => .error (.config ("unknown transformer `" ++ name ++ "`"))
      | none => .ok { strategies := c.order.map (c.named fetcher status) } := by
  rw [build, mapM_strategy]
  cases c.order.find? fun name => ¬ IsKnown name <;> rfl

variable {c fetcher status}

/-- An embedder is built when all names are known. -/
theorem build_of_known (h : ∀ name ∈ c.order, IsKnown name) :
    c.build fetcher status = .ok { strategies := c.order.map (c.named fetcher status) } := by
  have hnone : (c.order.find? fun name => ¬ IsKnown name) = none :=
    List.find?_eq_none.mpr fun name hname => by simpa using h name hname
  rw [build_eq, hnone]

/-- The first name that is not known is reported. -/
theorem build_of_unknown {earlier later : List String} {name : String}
    (horder : c.order = earlier ++ name :: later) (hearlier : ∀ n ∈ earlier, IsKnown n) (hname : ¬ IsKnown name) :
    c.build fetcher status = .error (.config ("unknown transformer `" ++ name ++ "`")) := by
  have hfirst : (c.order.find? fun name => ¬ IsKnown name) = some name :=
    List.find?_eq_some_iff_append.mpr
      ⟨by simpa using hname, earlier, later, horder, fun n hn => by simpa using hearlier n hn⟩
  rw [build_eq, hfirst]

/-- What is built is built by known names only. -/
theorem known_of_build {e : Embedder} (h : c.build fetcher status = .ok e) : ∀ name ∈ c.order, IsKnown name := by
  intro name hname
  rw [build_eq] at h
  cases hfirst : c.order.find? fun name => ¬ IsKnown name with
  | none => simpa using List.find?_eq_none.mp hfirst name hname
  | some unknown =>
    rw [hfirst] at h
    cases h

end

/-- Strategies that are built ask nobody but the sources they are given. -/
theorem isFunction_named (c : EmbedConfig) (pages : Url → Outcome (Option Metadata))
    (statuses : Url → Outcome (Option OEmbed)) (name : String) :
    (c.named (.ofUrl pages) (.ofUrl statuses) name).IsFunction := by
  unfold named
  split
  · refine ⟨fun _ _ _ => rfl, fun p hp => ?_⟩
    cases hasks : c.asksStatusProvider with
    | false => simp [preset, hasks] at hp
    | true =>
      obtain rfl : p = ⟨fun u => .value u.isTwitterStatus, Fetcher.ofUrl statuses⟩ := by
        simpa [preset, hasks] using hp
      exact fun _ _ _ => rfl
  · exact fun _ _ _ => rfl

end EmbedConfig

/-! ## Lists that are tried from first to last -/

namespace Embedder

/-- Strategies that are tried one after the other, told of one by one. -/
theorem map_finRange_get {α : Type} (strategies : List Strategy) (f : Strategy → α) :
    ((List.finRange strategies.length).map fun i => f (strategies.get i)) = strategies.map f := by
  conv_rhs => rw [← List.map_get_finRange strategies, List.map_map]
  rfl

theorem names_mk (strategies : List Strategy) :
    ({ strategies } : Embedder).names = strategies.map Strategy.name :=
  map_finRange_get strategies Strategy.name

theorem capabilities_mk (strategies : List Strategy) :
    ({ strategies } : Embedder).capabilities = strategies.map Strategy.capabilities :=
  map_finRange_get strategies Strategy.capabilities

/-- What a document becomes in any session by strategies of which all sources answer by the URL alone. -/
theorem document_of_remembered {e : Embedder} {ρ : Type} (hfunction : ∀ s ∈ e.strategies, s.IsFunction)
    (before : List (Action e.strategies.length ρ)) (d : Document) {links : List Path}
    (hlinks : links.Perm d.barePaths) (sink : Sink ρ) (r : ρ) :
    (d.resolveWith e.transformers sink links (remembered before) r).document =
      d.settled fun a => (settleAnchor (sink.path? r) e.capabilities a).anchor :=
  (d.resolveWith_of_uniform sink (isUniform hfunction (sink.path? r)) hlinks
    (coherent_remembered hfunction before)).1

/-- Documents become the same by strategies of which the first that render a page render it the same. -/
theorem document_congr {e e' : Embedder} {ρ : Type} (hfunction : ∀ s ∈ e.strategies, s.IsFunction)
    (hfunction' : ∀ s ∈ e'.strategies, s.IsFunction)
    (h : ∀ u, (e.capabilities.findSome? fun c => c.rendering? u) = e'.capabilities.findSome? fun c => c.rendering? u)
    (before : List (Action e.strategies.length ρ)) (before' : List (Action e'.strategies.length ρ)) (d : Document)
    {links links' : List Path} (hlinks : links.Perm d.barePaths) (hlinks' : links'.Perm d.barePaths) (sink : Sink ρ)
    (r : ρ) :
    (d.resolveWith e.transformers sink links (remembered before) r).document =
      (d.resolveWith e'.transformers sink links' (remembered before') r).document := by
  rw [document_of_remembered hfunction before d hlinks, document_of_remembered hfunction' before' d hlinks']
  exact congrArg d.settled (funext fun a => anchor_settleAnchor_congr h a)

end Embedder

namespace EmbedConfig

/-- Strategies can be built exactly if all names are known, and otherwise the first that is not is the one that the
error tells. What is built has the names as they are mentioned. When all sources answer by the URL alone, mentions of
names that were mentioned before can be left out, and every document becomes the same: whatever was embedded before
with either list, and in whatever order either deals with the links. -/
theorem repeated_names_change_nothing (c : EmbedConfig) (pages : Url → Outcome (Option Metadata))
    (statuses : Url → Outcome (Option OEmbed)) :
    let build := fun c : EmbedConfig => c.build (.ofUrl pages) (.ofUrl statuses)
    ((∃ e, build c = .ok e) ↔ ∀ name ∈ c.order, IsKnown name) ∧
      (∀ earlier name later, c.order = earlier ++ name :: later → (∀ n ∈ earlier, IsKnown n) → ¬ IsKnown name →
        build c = .error (.config ("unknown transformer `" ++ name ++ "`"))) ∧
      ∀ e, build c = .ok e → e.names = c.order ∧
        ∃ once, build { c with order := c.order.eraseDups } = .ok once ∧
          ∀ (ρ : Type) (before : List (Action e.strategies.length ρ))
            (before' : List (Action once.strategies.length ρ)) (d : Document) (links links' : List Path)
            (sink : Sink ρ) (r : ρ), links.Perm d.barePaths → links'.Perm d.barePaths →
            (d.resolveWith e.transformers sink links (remembered before) r).document =
              (d.resolveWith once.transformers sink links' (remembered before') r).document := by
  intro build
  refine ⟨⟨fun ⟨e, he⟩ => known_of_build he, fun h => ⟨_, build_of_known h⟩⟩,
    fun earlier name later horder hearlier hname => build_of_unknown horder hearlier hname, fun e he => ?_⟩
  have hknown := known_of_build he
  have hknown' : ∀ name ∈ c.order.eraseDups, IsKnown name := fun name hname =>
    hknown name (List.mem_eraseDups.mp hname)
  obtain rfl : _ = e := Except.ok.inj ((build_of_known hknown).symm.trans he)
  refine ⟨?_, _, build_of_known (c := { c with order := c.order.eraseDups }) hknown', ?_⟩
  · rw [Embedder.names_mk, List.map_map]
    exact List.map_congr_left (fun name hname => name_named c _ _ (hknown name hname)) |>.trans (List.map_id _)
  · intro ρ before before' d links links' sink r hlinks hlinks'
    have hfunction : ∀ order : List String, ∀ s ∈ order.map (c.named (.ofUrl pages) (.ofUrl statuses)),
        s.IsFunction := fun order => List.forall_mem_map.mpr fun name _ => isFunction_named c pages statuses name
    -- Both lists find the same first capability for every URL, so both make the same document.
    refine Embedder.document_congr (hfunction c.order) (hfunction c.order.eraseDups) (fun u => ?_) before before' d
      hlinks hlinks' sink r
    simp only [Embedder.capabilities_mk, List.findSome?_map]
    exact (findSome?_eraseDups _ c.order).symm

end EmbedConfig

end LinkEmbed
