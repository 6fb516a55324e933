import LinkEmbed.Proofs.Document.Order
import LinkEmbed.Proofs.Engine.Watch

/-!
# A pass writes embeds and nothing else

Whatever transformers answer, what differs after a pass are the embeds of links that may be embedded and whose
destination can be read.

* `DifferInEmbeds.eq_foldl` — documents that differ in embeds at some paths differ by writing these embeds. So they
  have as many nodes, and the same links may be embedded.
* `Shows.eq_embed`, `Shows.eq_of_none`, `Shows.eq_of_rendering` — what the calls for a link leave of it.
* `Document.resolveWith_writes_embeds` — what a whole pass leaves of a document.
-/

namespace LinkEmbed

/-! ## Documents that differ in embeds -/

namespace Document

variable {d e : Document}

/-- Other embeds at some paths make no difference for the number of nodes and for who may be embedded. -/
theorem foldl_changeEmbed (embed : Path → Option Embed) (paths : List Path) (d : Document) :
    let e := paths.foldl (fun d p => d.changeAnchor p fun a => { a with embed := embed p }) d
    e.nodeCount = d.nodeCount ∧ e.barePaths = d.barePaths := by
  induction paths generalizing d with
  | nil => exact ⟨rfl, rfl⟩
  | cons p rest ih =>
    obtain ⟨hcount, hpaths⟩ := ih (d.changeAnchor p fun a => { a with embed := embed p })
    refine ⟨hcount.trans ?_, hpaths.trans (d.barePaths_changeEmbed (embed p) p)⟩
    rw [nodeCount_eq, nodeCount_eq]
    exact Node.countAll_changeAnchor _ d.nodes p

/-- The two documents differ in the embeds of the links at some paths. -/
def DifferInEmbeds (d e : Document) (paths : List Path) : Prop :=
  d.Becomes paths (fun _ a b => b = { a with embed := b.embed }) e

/-- The one is the other with its own embeds written at these paths. -/
theorem DifferInEmbeds.eq_foldl {paths : List Path} (h : d.DifferInEmbeds e paths) (hnodup : paths.Nodup) :
    e = paths.foldl (fun d p =>
      d.changeAnchor p fun a => { a with embed := (e.anchor? p).bind Anchor.embed }) d := by
  let change (p : Path) (a : Anchor) : Anchor := { a with embed := (e.anchor? p).bind Anchor.embed }
  refine eq_of_shell? ?_ fun p => ?_
  · exact h.position.trans (position_foldl_changeAnchor change d paths).symm
  · rw [shell?_foldl_changeAnchor change d hnodup]
    split
    next hp =>
      obtain ⟨a, b, ha, hb, hab⟩ := h.links p hp
      have hembed : (e.anchor? p).bind Anchor.embed = b.embed := by simp [anchor?, hb, Node.anchor?]
      rw [ha, hb, hab]
      simp [Node.mapAnchor, change, hembed]
    next hp => exact h.apart p hp

/-- Embeds are no nodes. -/
theorem DifferInEmbeds.nodeCount_eq {paths : List Path} (h : d.DifferInEmbeds e paths) (hnodup : paths.Nodup) :
    e.nodeCount = d.nodeCount := by
  rw [h.eq_foldl hnodup]
  exact (foldl_changeEmbed _ paths d).1

/-- Which links may be embedded does not depend on the embeds that are there. -/
theorem DifferInEmbeds.barePaths_eq {paths : List Path} (h : d.DifferInEmbeds e paths) (hnodup : paths.Nodup) :
    e.barePaths = d.barePaths := by
  rw [h.eq_foldl hnodup]
  exact (foldl_changeEmbed _ paths d).2

end Document

/-! ## What calls for a link make of it -/

section

variable {ι σ : Type} {T : ι → Transformer σ} {a b : Anchor} {calls : List (Call ι σ)} {c : Call ι σ}
  {x : Rendering}

/-- Whatever is called, a link keeps all but its embed. -/
theorem Shows.eq_embed (h : Shows T a calls b) : b = { a with embed := b.embed } := by
  induction h with
  | nothing => rfl
  | pass _ _ ih => exact ih
  | last => rfl

/-- A link that no call renders says what it said. -/
theorem Shows.eq_of_none (h : Shows T a calls b) (hnone : ∀ c ∈ calls, c.rendering? (T c.number) = none) :
    b = a := by
  induction h with
  | nothing => rfl
  | pass _ _ ih => exact ih (List.forall_mem_cons.mp hnone).2
  | last hx =>
    rw [(List.forall_mem_cons.mp hnone).1] at hx
    cases hx

/-- A link shows what any of the calls for it renders. -/
theorem Shows.eq_of_rendering (h : Shows T a calls b) (hc : c ∈ calls)
    (hx : c.rendering? (T c.number) = some x) : b = a.showing x := by
  induction h with
  | nothing => cases hc
  | pass hnone _ ih =>
    rcases List.mem_cons.mp hc with rfl | hc
    · rw [hnone] at hx
      cases hx
    · exact ih hc
  | last hy =>
    obtain rfl := List.mem_singleton.mp hc
    rw [hx] at hy
    rw [Option.some.inj hy]

end

/-! ## A whole pass -/

section

variable {σ ρ : Type}

/-- A link whose destination can be read. -/
def Document.IsReadable (d : Document) (p : Path) : Prop :=
  ∃ a u, d.anchor? p = some a ∧ Url.parse a.url = .ok u

/-- Whatever transformers answer, and whether they break off, a pass writes the embeds of links that may be
embedded and can be read, and leaves all else as it is. So the document has as many nodes as before, the same
links may be embedded in it, and when nobody renders a link it is the same document. -/
theorem Document.resolveWith_writes_embeds (ts : List (Transformer σ)) (sink : Sink ρ) (d : Document)
    {order : List Path} (horder : order.Perm d.barePaths) (s : σ) (r : ρ) :
    let after := (d.resolveWith ts sink order s r).document
    let watched := d.resolveWith (watchAll id ts) sink order (s, []) r
    after.position = d.position ∧
      (∀ p, ¬ (d.IsEligible p ∧ d.IsReadable p) → after.shell? p = d.shell? p) ∧
      (∀ p, d.IsEligible p → d.IsReadable p → ∃ a embed, d.shell? p = some (.link a []) ∧
        after.shell? p = some (.link { a with embed } [])) ∧
      after.nodeCount = d.nodeCount ∧ after.barePaths = d.barePaths ∧
      (∀ p, after.IsEligible p ↔ d.IsEligible p) ∧
      watched.document = after ∧
      ((∀ c ∈ watched.memory.2, c.rendering? c.number = none) → after = d) := by
  intro after watched
  obtain ⟨calls, hwatched, -, hgenuine, -, hbecomes⟩ := d.resolveWith_watched id ts sink horder s r
  rw [List.map_id] at hwatched hbecomes
  have hdiffer : d.DifferInEmbeds after order := hbecomes.imp fun p _ a b hshows => hshows.eq_embed
  have hnodup : order.Nodup := horder.nodup_iff.mpr d.nodup_barePaths
  have hbarePaths : after.barePaths = d.barePaths := hdiffer.barePaths_eq hnodup
  have hmem : ∀ p, p ∈ order ↔ d.IsEligible p := fun p => horder.mem_iff.trans mem_barePaths_iff
  refine ⟨hdiffer.position, fun p hp => ?_, fun p heligible _ => ?_, hdiffer.nodeCount_eq hnodup, hbarePaths,
    ?_, congrArg Outgoing.document hwatched, fun hnone => ?_⟩
  · by_cases heligible : d.IsEligible p
    · -- No call is made for a link that cannot be read.
      obtain ⟨a, b, ha, hb, hshows⟩ := hbecomes.links p ((hmem p).mpr heligible)
      have hcalls : calls p = [] := by
        refine List.eq_nil_iff_forall_not_mem.mpr fun c hc => hp ⟨heligible, ?_⟩
        obtain ⟨-, a, ha, hu⟩ := hgenuine p ((hmem p).mpr heligible) c hc
        exact ⟨a, c.url, ha, hu⟩
      rw [hcalls] at hshows
      rw [ha, hb, hshows.eq_of_none (List.forall_mem_nil _)]
    · exact hdiffer.apart p fun hp => heligible ((hmem p).mp hp)
  · obtain ⟨a, b, ha, hb, hab⟩ := hdiffer.links p ((hmem p).mpr heligible)
    exact ⟨a, b.embed, ha, hab ▸ hb⟩
  · intro p
    rw [← mem_barePaths_iff, hbarePaths, mem_barePaths_iff]
  · refine hbecomes.eq fun p hp a b hshows => hshows.eq_of_none fun c hc => ?_
    refine hnone c ?_
    have hlog : watched.memory.2 = order.flatMap calls := congrArg (fun o => o.memory.2) hwatched
    rw [hlog]
    exact List.mem_flatMap.mpr ⟨p, hp, hc⟩

/-- One transformer breaks off and one renders all it is asked for: of two links to one page and one that is no
address, dealt with in another order than theirs, the places are the same afterwards, and the quotation is as it
was. -/
theorem Document.resolveWith_writes_embeds_quoted :
    let document : Document :=
      ⟨[.paragraph none [.autolink "http://a.b" none],
        .generic { kind := "blockquote" } [.paragraph none [.autolink "http://a.b" none]],
        .paragraph none [.autolink "no address" none]], none⟩
    let transformers : List (Transformer Unit) :=
      [CustomTransformer.transformer
          { name := "broken", accepts := .computed fun _ => .panicked none, tagName := .constant "p" },
        CustomTransformer.transformer { name := "all", accepts := .constant true, tagName := .constant "div" }]
    let order : List Path := [[1, 0, 0], [2, 0], [0, 0]]
    let after := (document.resolveWith transformers Sink.list order () []).document
    order.Perm document.barePaths ∧ after.barePaths = [[0, 0], [1, 0, 0], [2, 0]] ∧ after.nodeCount = 10 ∧
      after.shell? [1] = document.shell? [1] := by
  intro document transformers order after
  have horder : order.Perm document.barePaths := by decide
  obtain ⟨-, hapart, -, hcount, hpaths, -⟩ :=
    document.resolveWith_writes_embeds transformers Sink.list horder () []
  refine ⟨horder, hpaths, hcount.trans ?_, hapart [1] fun h => ?_⟩
  · rw [nodeCount_eq]
    decide
  · exact absurd (mem_barePaths_iff.mpr h.1) (by decide)

end

end LinkEmbed
