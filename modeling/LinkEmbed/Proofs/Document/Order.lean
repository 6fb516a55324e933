import LinkEmbed.Proofs.Document.Eligible

/-!
# Document order

The nodes of a document with their places, a parent before its content (`Node.placesAll`). What the model does by
walks and recursions is said by these places.

* `Node.walk_eq_preorderAll`, `Node.map_snd_placesAll` — the walk with a stack of pending nodes, the recursion on the
  tree and the places yield the same nodes in the same order.
* `Node.mem_placesAll_iff` — the places are all paths at which a node stands.
* `Node.pairwise_placesAll` — they increase from node to node.
* `Document.map_link?_linkPaths`, `Document.map_link?_barePaths` — the links that are found, by their places.
* `Document.barePaths_sublist` — the paths to the links that may be embedded are among them, in the same order.
-/

namespace LinkEmbed

namespace Node

/-! ## Two ways to walk a tree -/

theorem preorder_eq (n : Node) : n.preorder = n :: preorderAll n.content := by
  cases n <;> rfl

theorem preorderAll_append (a b : List Node) : preorderAll (a ++ b) = preorderAll a ++ preorderAll b := by
  induction a with
  | nil => rfl
  | cons n r ih => simp [preorderAll, ih]

/-- What a stack of pending nodes still yields is what the recursion yields for each of them. -/
theorem walk_eq_preorderAll (stack : List Node) : walk stack = preorderAll stack := by
  -- The stack shrinks by a node and grows by its content, so the induction is on the walk itself.
  fun_induction walk stack with
  | case1 => rfl
  | case2 n pending ih => rw [ih, preorderAll_append, preorderAll, preorder_eq, List.cons_append]

/-- The walk comes by every node once. -/
theorem length_walk (stack : List Node) : (walk stack).length = countAll stack := by
  fun_induction walk stack with
  | case1 => rfl
  | case2 n pending ih =>
    rw [List.length_cons, ih, countAll_append, countAll, count_eq]
    omega

/-! ## Places -/

mutual

/-- A node and all below it in document order, each with the path that leads down to it. -/
def places : Node → List (Path × Node)
  | .paragraph p c => ([], .paragraph p c) :: placesAll 0 c
  | .link a c => ([], .link a c) :: placesAll 0 c
  | .text p v => [([], .text p v)]
  | .generic i c => ([], .generic i c) :: placesAll 0 c

/-- The same for a list of nodes, the first of which has index `i`. -/
def placesAll (i : Nat) : List Node → List (Path × Node)
  | [] => []
  | n :: r => n.places.map (fun x => (i :: x.1, x.2)) ++ placesAll (i + 1) r

end

theorem places_eq (n : Node) : n.places = ([], n) :: placesAll 0 n.content := by
  cases n <;> rfl

mutual

theorem map_snd_places (n : Node) : n.places.map Prod.snd = n.preorder := by
  cases n with
  | text => rfl
  | paragraph p c => exact congrArg _ (map_snd_placesAll 0 c)
  | link a c => exact congrArg _ (map_snd_placesAll 0 c)
  | generic i c => exact congrArg _ (map_snd_placesAll 0 c)

/-- Without the paths the places are the nodes in preorder. -/
theorem map_snd_placesAll (i : Nat) (ns : List Node) : (placesAll i ns).map Prod.snd = preorderAll ns := by
  cases ns with
  | nil => rfl
  | cons n r =>
    rw [placesAll, preorderAll, List.map_append, List.map_map, map_snd_placesAll (i + 1) r, ← map_snd_places n]
    rfl

end

/-- The places in a list of nodes are those at and below its nodes, with their index before them. -/
theorem mem_placesAll {i : Nat} {ns : List Node} {x : Path × Node} :
    x ∈ placesAll i ns ↔ ∃ k m q, ns[k]? = some m ∧ (q, x.2) ∈ m.places ∧ x.1 = (i + k) :: q := by
  induction ns generalizing i with
  | nil => simp [placesAll]
  | cons n r ih =>
    rw [placesAll, List.mem_append, List.mem_map, ih]
    -- The head of the list has index `i`, and what is behind it begins at `i + 1`.
    constructor
    · rintro (⟨⟨q, m⟩, hq, rfl⟩ | ⟨k, m, q, hm, hq, hx⟩)
      · exact ⟨0, n, q, rfl, hq, rfl⟩
      · exact ⟨k + 1, m, q, hm, hq, by rw [hx, Nat.add_right_comm, Nat.add_assoc]⟩
    · rintro ⟨k, m, q, hm, hq, hx⟩
      cases k with
      | zero =>
        obtain rfl : n = m := by simpa using hm
        exact Or.inl ⟨(q, x.2), hq, Prod.ext hx.symm rfl⟩
      | succ k => exact Or.inr ⟨k, m, q, by simpa using hm, hq, by rw [hx, Nat.add_right_comm, Nat.add_assoc]⟩

/-- A node stands at a path exactly if it has it as one of its places. -/
theorem mem_placesAll_iff {ns : List Node} {p : Path} {n : Node} :
    (p, n) ∈ placesAll 0 ns ↔ at? ns p = some n := by
  match p with
  | [] => simp [mem_placesAll, at?]
  | k :: q =>
    rw [mem_placesAll, at?_cons]
    constructor
    · rintro ⟨k', m, q', hm, hq, hp⟩
      obtain ⟨rfl, rfl⟩ : k = k' ∧ q = q' := by simpa using hp
      -- Either the path ends at this node, or it goes on in its content.
      rw [hm, Option.bind_some]
      cases q with
      | nil =>
        rw [places_eq] at hq
        rcases List.mem_cons.mp hq with heq | hmem
        · exact congrArg some (Prod.mk.inj heq).2.symm
        · simp [mem_placesAll] at hmem
      | cons j q =>
        rw [places_eq] at hq
        exact mem_placesAll_iff.mp (List.mem_of_ne_of_mem (by simp) hq)
    · intro h
      obtain ⟨m, hm, hbelow⟩ := Option.bind_eq_some_iff.mp h
      refine ⟨k, m, q, hm, ?_, by rw [Nat.zero_add]⟩
      rw [places_eq]
      cases q with
      | nil =>
        obtain rfl := Option.some.inj hbelow
        exact List.mem_cons_self
      | cons j q => exact List.mem_cons_of_mem _ (mem_placesAll_iff.mpr hbelow)
termination_by p.length

mutual

/-- The path to a node comes before the paths that go on from it, and these increase. -/
theorem pairwise_places (n : Node) : (n.places.map Prod.fst).Pairwise (· < ·) := by
  -- The empty path comes first, before any that has an index.
  have hdown : ∀ c : List Node, (([] : Path) :: (placesAll 0 c).map Prod.fst).Pairwise (· < ·) ↔
      ((placesAll 0 c).map Prod.fst).Pairwise (· < ·) := by
    intro c
    rw [List.pairwise_cons, and_iff_right]
    intro p hp
    obtain ⟨x, hx, rfl⟩ := List.mem_map.mp hp
    obtain ⟨k, m, q, -, -, hq⟩ := mem_placesAll.mp hx
    rw [hq]
    exact List.nil_lt_cons _ _
  cases n with
  | text => exact List.pairwise_singleton _ _
  | paragraph p c => exact (hdown c).mpr (pairwise_placesAll 0 c)
  | link a c => exact (hdown c).mpr (pairwise_placesAll 0 c)
  | generic i c => exact (hdown c).mpr (pairwise_placesAll 0 c)

/-- The places increase from node to node, where a path comes before all that go on from it. -/
theorem pairwise_placesAll (i : Nat) (ns : List Node) : ((placesAll i ns).map Prod.fst).Pairwise (· < ·) := by
  cases ns with
  | nil => exact List.Pairwise.nil
  | cons n r =>
    rw [placesAll, List.map_append, List.pairwise_append, List.map_map]
    refine ⟨?_, pairwise_placesAll (i + 1) r, ?_⟩
    · have hn := pairwise_places n
      rw [List.pairwise_map] at hn ⊢
      exact hn.imp fun h => List.cons_lt_cons_iff.mpr (Or.inr ⟨rfl, h⟩)
    · -- The first index is greater in all nodes after the first.
      intro p hp q hq
      obtain ⟨x, -, rfl⟩ := List.mem_map.mp hp
      obtain ⟨y, hy, rfl⟩ := List.mem_map.mp hq
      obtain ⟨k, m, q, -, -, hk⟩ := mem_placesAll.mp hy
      rw [hk]
      refine List.cons_lt_cons_iff.mpr (Or.inl ?_)
      omega

end

/-! ## Links that may be embedded -/

mutual

theorem barePaths_sublist (sole : Bool) (n : Node) :
    (n.barePaths sole).Sublist (n.places.map Prod.fst) := by
  cases n with
  | text => exact List.nil_sublist _
  | paragraph p c => exact (barePathsAll_sublist _ 0 c).cons []
  | generic i c => exact (barePathsAll_sublist false 0 c).cons []
  | link a c =>
    rw [barePaths]
    split
    · -- A bare link alone is found at once, and nothing in it.
      exact (List.nil_sublist _).cons_cons []
    · exact (barePathsAll_sublist false 0 c).cons []

/-- The links that may be embedded are found in the order of the places. -/
theorem barePathsAll_sublist (sole : Bool) (i : Nat) (ns : List Node) :
    (barePathsAll sole i ns).Sublist ((placesAll i ns).map Prod.fst) := by
  cases ns with
  | nil => exact List.Sublist.refl _
  | cons n r =>
    rw [barePathsAll, placesAll, List.map_append, List.map_map]
    have hn := (barePaths_sublist sole n).map (i :: ·)
    rw [List.map_map] at hn
    exact hn.append (barePathsAll_sublist sole (i + 1) r)

end

end Node

namespace Document

/-- All nodes in document order, each with its place. -/
def places (d : Document) : List (Path × Node) := Node.placesAll 0 d.nodes

/-- The places of links in document order, links inside links included. -/
def linkPaths (d : Document) : List Path := (d.places.map Prod.fst).filter fun p => (d.link? p).isSome

theorem map_snd_places (d : Document) : d.places.map Prod.snd = d.walk := by
  rw [places, Node.map_snd_placesAll, walk, Node.walk_eq_preorderAll]

theorem nodeCount_eq (d : Document) : d.nodeCount = Node.countAll d.nodes := Node.length_walk d.nodes

/-- A node stands at a path exactly if it is one of the places. -/
theorem mem_places_iff {d : Document} {p : Path} {n : Node} : (p, n) ∈ d.places ↔ Node.at? d.nodes p = some n :=
  Node.mem_placesAll_iff

/-- The places of links are all paths at which a link stands. -/
theorem mem_linkPaths_iff {d : Document} {p : Path} : p ∈ d.linkPaths ↔ (d.link? p).isSome := by
  rw [linkPaths, List.mem_filter, and_iff_right_iff_imp]
  intro h
  obtain ⟨l, hl⟩ := Option.isSome_iff_exists.mp h
  obtain ⟨n, hn, -⟩ := Option.bind_eq_some_iff.mp hl
  exact List.mem_map.mpr ⟨(p, n), mem_places_iff.mpr hn, rfl⟩

/-- So they increase too, and none comes twice. -/
theorem pairwise_linkPaths (d : Document) : d.linkPaths.Pairwise (· < ·) :=
  (Node.pairwise_placesAll 0 d.nodes).sublist List.filter_sublist

/-- The links that the walk finds are those at the places of links, in the same order. -/
theorem map_link?_linkPaths (d : Document) : d.linkPaths.map d.link? = d.links.map some := by
  have hplaces : ∀ x ∈ d.places, d.link? x.1 = x.2.link? := by
    intro x hx
    rw [link?, mem_places_iff.mp (show (x.1, x.2) ∈ d.places from hx), Option.bind_some]
  rw [linkPaths, links, ← map_snd_places]
  -- Only what holds of each place is needed, so the induction is on any list of such places.
  generalize d.places = places at hplaces
  induction places with
  | nil => rfl
  | cons x r ih =>
    obtain ⟨hx, hr⟩ := List.forall_mem_cons.mp hplaces
    rw [List.map_cons, List.map_cons, List.filter_cons, List.filterMap_cons, hx]
    cases hlink : x.2.link? with
    | none => exact ih hr
    | some l =>
      rw [Option.isSome_some, if_pos rfl, List.map_cons, List.map_cons, ih hr, hx, hlink]

/-- The links that may be embedded come in document order, each once. -/
theorem barePaths_sublist (d : Document) : d.barePaths.Sublist d.linkPaths := by
  have hlinks : d.barePaths.filter (fun p => (d.link? p).isSome) = d.barePaths := by
    refine List.filter_eq_self.mpr fun p hp => ?_
    obtain ⟨l, hl, -⟩ := bare_of_mem_barePaths hp
    rw [hl, Option.isSome_some]
  exact hlinks ▸ (Node.barePathsAll_sublist false 0 d.nodes).filter _

/-- The links that may be embedded are those at their paths, in the same order. -/
theorem map_link?_barePaths (d : Document) : d.barePaths.map d.link? = d.bareLinks.map some := by
  have hlinks : ∀ p ∈ d.barePaths, (d.link? p).isSome := fun p hp =>
    mem_linkPaths_iff.mp (d.barePaths_sublist.subset hp)
  unfold bareLinks
  generalize d.barePaths = paths at hlinks
  induction paths with
  | nil => rfl
  | cons p r ih =>
    obtain ⟨hp, hr⟩ := List.forall_mem_cons.mp hlinks
    obtain ⟨l, hl⟩ := Option.isSome_iff_exists.mp hp
    rw [List.map_cons, ih hr, List.filterMap_cons, hl, List.map_cons]

end Document

end LinkEmbed
