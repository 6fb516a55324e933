import LinkEmbed.Proofs.Document.Order

/-!
# Walks and visits

A walker keeps the nodes that it has put off, the next one last. Each step takes one node off and puts its content
there, so that fewer nodes are left at and below those that are put off, and the walk ends.

* `Walker.yields_iff` — what a walker still yields is what the recursion on the tree yields for the pending nodes.
* `Document.mem_linkPlaces_iff`, `Document.pairwise_linkPlaces` — the places of links are the paths at which links
  stand, and they increase.
* `Document.visitLinks_eq_foldl` — a visit of all links is as if they were visited one after another at their places,
  in document order, each as it was before the visit.
* `Document.traversals_agree` — the walk, the recursion and the visit go through the same nodes in the same order.
-/

namespace LinkEmbed

namespace Walker

/-! ## The walk step by step -/

/-- The walker yields exactly these nodes, one after another, and then there is no next one. -/
inductive Yields : Walker → List Node → Prop
  | done {w : Walker} (h : w.next? = none) : Yields w []
  | next {w w' : Walker} {n : Node} {ns : List Node} (h : w.next? = some (n, w')) (hrest : Yields w' ns) :
      Yields w (n :: ns)

/-- A walker yields one list of nodes. -/
theorem Yields.unique {w : Walker} {ns ms : List Node} (hns : w.Yields ns) (hms : w.Yields ms) : ns = ms := by
  induction hns generalizing ms with
  | done h =>
    cases hms with
    | done => rfl
    | next h' => cases h.symm.trans h'
  | next h hrest ih =>
    cases hms with
    | done h' => cases h.symm.trans h'
    | next h' hrest' =>
      obtain ⟨rfl, rfl⟩ := Prod.mk.inj (Option.some.inj (h.symm.trans h'))
      rw [ih hrest']

theorem next?_ofNodes_nil : (ofNodes []).next? = none := rfl

theorem next?_ofNodes_cons (n : Node) (pending : List Node) :
    (ofNodes (n :: pending)).next? = some (n, ofNodes (n.content ++ pending)) := by
  simp [ofNodes, next?]

/-- What is put off decides what is yielded. The induction is on the number of nodes at and below the pending ones. -/
theorem yields_ofNodes (pending : List Node) : (ofNodes pending).Yields (Node.walk pending) := by
  fun_induction Node.walk pending with
  | case1 => exact .done next?_ofNodes_nil
  | case2 n pending ih => exact .next (next?_ofNodes_cons n pending) ih

/-- So a walker yields the nodes of its list in preorder, and nothing else. -/
theorem yields_iff {ns ms : List Node} : (ofNodes ns).Yields ms ↔ ms = Node.preorderAll ns := by
  rw [← Node.walk_eq_preorderAll]
  exact ⟨fun h => h.unique (yields_ofNodes ns), fun h => h ▸ yields_ofNodes ns⟩

end Walker

namespace Node

/-! ## Places of links -/

/-- The place of a node with the link that it is. -/
def linkPlace? (x : Path × Node) : Option (Path × Link) := x.2.link?.map (x.1, ·)

/-- The links at and below a list of nodes in document order, each with the path that leads down to it; the first
node has index `i`. -/
def linkPlacesAll (i : Nat) (ns : List Node) : List (Path × Link) := (placesAll i ns).filterMap linkPlace?

/-- The first node comes first if it is a link, then the links in its content, then those of the rest. -/
theorem linkPlacesAll_cons (i : Nat) (n : Node) (r : List Node) :
    linkPlacesAll i (n :: r) = (n.link?.map ([i], ·)).toList ++
      ((linkPlacesAll 0 n.content).map fun x => (i :: x.1, x.2)) ++ linkPlacesAll (i + 1) r := by
  have hdown : (linkPlace? ∘ fun x => (i :: x.1, x.2)) = fun x => (linkPlace? x).map fun x => (i :: x.1, x.2) := by
    funext x
    simp [linkPlace?, Function.comp_def]
  rw [linkPlacesAll, placesAll, places_eq, List.map_cons, List.cons_append, List.filterMap_cons,
    List.filterMap_append, List.filterMap_map, hdown, linkPlacesAll, List.map_filterMap]
  cases hlink : n.link? <;> simp [linkPlace?, hlink, linkPlacesAll]

/-- The place of a link in a list of nodes has at least one index. -/
theorem ne_nil_of_mem_linkPlacesAll {i : Nat} {ns : List Node} {x : Path × Link} (h : x ∈ linkPlacesAll i ns) :
    x.1 ≠ [] := by
  obtain ⟨y, hy, hx⟩ := List.mem_filterMap.mp h
  obtain ⟨l, -, rfl⟩ := Option.map_eq_some_iff.mp hx
  obtain ⟨k, m, q, -, -, hq⟩ := mem_placesAll.mp hy
  simp [hq]

/-! ## Visiting links at their places -/

variable {σ : Type u} (f : σ → Link → Anchor × σ)

/-- One visit at a place: the link there says what the visitor gives. -/
def visitAt (r : List Node × σ) (x : Path × Link) : List Node × σ :=
  (changeAnchor (fun _ => (f r.2 x.2).1) r.1 x.1, (f r.2 x.2).2)

/-- What the visit makes of the node itself, its content apart. -/
def visitHere (s : σ) (n : Node) : Node × σ :=
  match n.link? with
  | some l => (n.mapAnchor fun _ => (f s l).1, (f s l).2)
  | none => (n, s)

theorem content_visitHere (s : σ) (n : Node) : (n.visitHere f s).1.content = n.content := by
  cases n <;> rfl

/-- A link is visited before the links in its content. -/
theorem visitLinks_eq (s : σ) (n : Node) :
    n.visitLinks f s =
      ((n.visitHere f s).1.withContent (visitLinksAll f (n.visitHere f s).2 n.content).1,
        (visitLinksAll f (n.visitHere f s).2 n.content).2) := by
  cases n <;> rfl

theorem visitLinksAll_cons (s : σ) (n : Node) (r : List Node) :
    visitLinksAll f s (n :: r) =
      ((n.visitLinks f s).1 :: (visitLinksAll f (n.visitLinks f s).2 r).1,
        (visitLinksAll f (n.visitLinks f s).2 r).2) := rfl

theorem withContent_withContent (c d : List Node) (n : Node) : (n.withContent c).withContent d = n.withContent d := by
  cases n <;> rfl

/-- The node behind a list of others is reached by their number. -/
theorem modify_append_cons (before after : List Node) (n : Node) (g : Node → Node) :
    (before ++ n :: after).modify before.length g = before ++ g n :: after := by
  induction before with
  | nil => rfl
  | cons m r ih => exact congrArg (m :: ·) ih

/-- Visits at places in the content of a node are visits of that content. -/
theorem foldl_visitAt_below (before after : List Node) {xs : List (Path × Link)} (hxs : ∀ x ∈ xs, x.1 ≠ [])
    (n : Node) (s : σ) :
    (xs.map fun x => (before.length :: x.1, x.2)).foldl (visitAt f) (before ++ n :: after, s) =
      (before ++ n.withContent (xs.foldl (visitAt f) (n.content, s)).1 :: after,
        (xs.foldl (visitAt f) (n.content, s)).2) := by
  induction xs generalizing n s with
  | nil => cases n <;> rfl
  | cons x r ih =>
    obtain ⟨hx, hr⟩ := List.forall_mem_cons.mp hxs
    obtain ⟨j, p, hp⟩ := List.exists_cons_of_ne_nil hx
    have hstep : visitAt f (before ++ n :: after, s) (before.length :: x.1, x.2) =
        (before ++ n.withContent (visitAt f (n.content, s) x).1 :: after, (visitAt f (n.content, s) x).2) := by
      rw [visitAt, hp, changeAnchor_cons_cons, modify_append_cons, ← hp]
      rfl
    -- What was written stands in the content of the node, where the next visit finds it.
    have hcontent : (n.withContent (visitAt f (n.content, s) x).1).content = (visitAt f (n.content, s) x).1 :=
      content_withContent_changeAnchor _ n x.1
    rw [List.map_cons, List.foldl_cons, hstep, ih hr, hcontent, List.foldl_cons, withContent_withContent]

/-- The visit at the place of a node itself, if it is a link. -/
theorem foldl_visitAt_here (before after : List Node) (n : Node) (s : σ) :
    (n.link?.map ([before.length], ·)).toList.foldl (visitAt f) (before ++ n :: after, s) =
      (before ++ (n.visitHere f s).1 :: after, (n.visitHere f s).2) := by
  cases hlink : n.link? with
  | none => simp [visitHere, hlink]
  | some l => simp [visitHere, hlink, visitAt, changeAnchor_singleton, modify_append_cons]

/-- Visiting all links is visiting them one after another at their places. The nodes before the first one are there
for the induction: indices count on from them. -/
theorem foldl_visitAt_linkPlacesAll (before ns : List Node) (s : σ) :
    (linkPlacesAll before.length ns).foldl (visitAt f) (before ++ ns, s) =
      (before ++ (visitLinksAll f s ns).1, (visitLinksAll f s ns).2) := by
  cases ns with
  | nil => rfl
  | cons n r =>
    -- The content of a node is no part of the list, so the recursion is on the number of nodes.
    have hfewer : countAll n.content < countAll (n :: r) := countAll_content_lt List.mem_cons_self
    have hrest : countAll r < countAll (n :: r) := by
      rw [countAll, count_eq]
      omega
    have hinside : (linkPlacesAll 0 n.content).foldl (visitAt f) (n.content, (n.visitHere f s).2) =
        visitLinksAll f (n.visitHere f s).2 n.content :=
      foldl_visitAt_linkPlacesAll [] n.content (n.visitHere f s).2
    obtain ⟨hnode, hstate⟩ := Prod.mk.inj (visitLinks_eq f s n).symm
    -- The first node is done and counts among those before.
    have hafter := foldl_visitAt_linkPlacesAll (before ++ [(n.visitLinks f s).1]) r (n.visitLinks f s).2
    rw [List.length_append, List.length_singleton, List.append_assoc, List.append_assoc, List.singleton_append,
      List.singleton_append] at hafter
    rw [linkPlacesAll_cons, List.foldl_append, List.foldl_append, foldl_visitAt_here,
      foldl_visitAt_below f before r (fun x hx => ne_nil_of_mem_linkPlacesAll hx), content_visitHere, hinside,
      hnode, hstate, hafter, visitLinksAll_cons]
termination_by countAll ns

end Node

namespace Document

variable {σ : Type u} (d : Document) (f : σ → Link → Anchor × σ)

/-- All links in document order, links inside links included, each with its place. -/
def linkPlaces (d : Document) : List (Path × Link) := Node.linkPlacesAll 0 d.nodes

/-- One visit at a place: the link there says what the visitor gives. -/
def visitAt (r : Document × σ) (x : Path × Link) : Document × σ :=
  (r.1.changeAnchor x.1 fun _ => (f r.2 x.2).1, (f r.2 x.2).2)

theorem linkPlaces_eq : d.linkPlaces = d.places.filterMap Node.linkPlace? := rfl

/-- Without their places these are the links of the document. -/
theorem map_snd_linkPlaces : d.linkPlaces.map Prod.snd = d.links := by
  have hlink : ∀ x, (Node.linkPlace? x).map Prod.snd = x.2.link? := by
    intro x
    simp [Node.linkPlace?, Function.comp_def]
  rw [linkPlaces_eq, List.map_filterMap, links, ← map_snd_places, List.filterMap_map]
  exact List.filterMap_congr fun x _ => hlink x

/-- A link is at its place exactly if it stands at that path. -/
theorem mem_linkPlaces_iff {p : Path} {l : Link} : (p, l) ∈ d.linkPlaces ↔ d.link? p = some l := by
  rw [linkPlaces_eq, List.mem_filterMap, link?, Option.bind_eq_some_iff]
  constructor
  · rintro ⟨⟨q, n⟩, hn, hx⟩
    obtain ⟨l', hl, heq⟩ := Option.map_eq_some_iff.mp hx
    obtain ⟨rfl, rfl⟩ := Prod.mk.inj heq
    exact ⟨n, mem_places_iff.mp hn, hl⟩
  · rintro ⟨n, hn, hl⟩
    exact ⟨(p, n), mem_places_iff.mpr hn, by simp [Node.linkPlace?, hl]⟩

/-- The places of links increase, so no link comes twice. -/
theorem pairwise_linkPlaces : (d.linkPlaces.map Prod.fst).Pairwise (· < ·) := by
  have hplaces := Node.pairwise_placesAll 0 d.nodes
  have hfst : ∀ x y, Node.linkPlace? x = some y → y.1 = x.1 := by
    rintro x y hx
    obtain ⟨l, -, rfl⟩ := Option.map_eq_some_iff.mp hx
    rfl
  rw [List.pairwise_map] at hplaces ⊢
  rw [linkPlaces_eq, List.pairwise_filterMap]
  exact hplaces.imp fun {x y} hlt x' hx y' hy => by rwa [hfst x x' hx, hfst y y' hy]

/-- Visiting all links is visiting them one after another at their places. -/
theorem visitLinks_eq_foldl (s : σ) : d.visitLinks f s = d.linkPlaces.foldl (visitAt f) (d, s) := by
  have hnodes : ∀ (xs : List (Path × Link)) (r : List Node × σ),
      xs.foldl (visitAt f) (({ d with nodes := r.1 } : Document), r.2) =
        (({ d with nodes := (xs.foldl (Node.visitAt f) r).1 } : Document), (xs.foldl (Node.visitAt f) r).2) := by
    intro xs
    induction xs with
    | nil => exact fun r => rfl
    | cons x rest ih => exact fun r => ih (Node.visitAt f r x)
  have hall := Node.foldl_visitAt_linkPlacesAll f [] d.nodes s
  rw [List.length_nil, List.nil_append, List.nil_append] at hall
  rw [linkPlaces, hnodes _ (d.nodes, s), hall]
  rfl

/-- **Every way through a document is the same.** A walker that begins at the top yields exactly the nodes of the
document, a parent before its content and the content from left to right, and ends. These are the nodes that the walk
finds, that are counted, and that stand at the places of the document, which increase and are all the paths at which
a node stands, so that each node comes once. The links are those among them, in the same order; the first one that is
looked for is the first one in this order. A visit of all links, whatever the visitor does with what links say, is as
if the visitor saw the links of the document one after another, in this order, and each answer were written at the
place of its link. -/
theorem traversals_agree (s : σ) :
    (∀ ns, (Walker.ofNodes d.nodes).Yields ns ↔ ns = Node.preorderAll d.nodes) ∧
      d.walk = Node.preorderAll d.nodes ∧ d.nodeCount = Node.countAll d.nodes ∧
      d.places.map Prod.snd = Node.preorderAll d.nodes ∧ (d.places.map Prod.fst).Pairwise (· < ·) ∧
      (∀ p n, (p, n) ∈ d.places ↔ Node.at? d.nodes p = some n) ∧
      d.links = (Node.preorderAll d.nodes).filterMap Node.link? ∧
      (∀ wanted l, d.findLink? wanted = some l ↔
        wanted l = true ∧ ∃ before after, d.links = before ++ l :: after ∧ ∀ m ∈ before, wanted m = false) ∧
      (∀ wanted, d.findLink? wanted = none ↔ ∀ l ∈ d.links, wanted l = false) ∧
      d.linkPlaces.map Prod.snd = d.links ∧ (d.linkPlaces.map Prod.fst).Pairwise (· < ·) ∧
      (∀ p l, (p, l) ∈ d.linkPlaces ↔ d.link? p = some l) ∧
      d.visitLinks f s = d.linkPlaces.foldl (visitAt f) (d, s) := by
  have hwalk : d.walk = Node.preorderAll d.nodes := Node.walk_eq_preorderAll d.nodes
  refine ⟨fun ns => Walker.yields_iff, hwalk, d.nodeCount_eq, Node.map_snd_placesAll 0 d.nodes,
    Node.pairwise_placesAll 0 d.nodes, fun p n => mem_places_iff, by rw [links, hwalk], fun wanted l => ?_,
    fun wanted => ?_, d.map_snd_linkPlaces, d.pairwise_linkPlaces, fun p l => d.mem_linkPlaces_iff,
    d.visitLinks_eq_foldl f s⟩
  · simp [findLink?, List.find?_eq_some_iff_append]
  · simp [findLink?]

end Document

end LinkEmbed
