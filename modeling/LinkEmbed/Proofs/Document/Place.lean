import LinkEmbed.Document.Traversal

/-!
# Places in a document

A node without its content is its shell. What a pass does to a document is said by the shells at all paths.

* `Node.at?_modifyAt`, `Node.shellAt?_modifyAt`, `Node.at?_modifyAt_of_apart` — a change at one path: what stands at,
  above and apart from it afterwards.
* `Document.shell?_changeAnchor` — so changing the link at a path changes the shell there and no other.
* `Document.eq_of_shell?` — a document is known by its shells.
* `Document.Becomes` — one document becomes another by changes to what links say.
* `Document.Becomes.eq` — where these changes change nothing, the documents are equal.
-/

namespace LinkEmbed

namespace Node

/-- A node without its content. -/
def shell (n : Node) : Node := n.withContent []

/-- What the link that a node is says apart from its content. -/
def anchor? : Node → Option Anchor
  | .link a _ => some a
  | _ => none

/-- The shell at a path. -/
def shellAt? (ns : List Node) (p : Path) : Option Node := (at? ns p).map shell

/-! ## Single nodes -/

@[simp] theorem content_mapAnchor (f : Anchor → Anchor) (n : Node) : (n.mapAnchor f).content = n.content := by
  cases n <;> rfl

@[simp] theorem shell_mapAnchor (f : Anchor → Anchor) (n : Node) :
    (n.mapAnchor f).shell = n.shell.mapAnchor f := by
  cases n <;> rfl

@[simp] theorem shell_withContent (c : List Node) (n : Node) : (n.withContent c).shell = n.shell := by
  cases n <;> rfl

@[simp] theorem anchor?_shell (n : Node) : n.shell.anchor? = n.anchor? := by
  cases n <;> rfl

@[simp] theorem mapAnchor_id (n : Node) : n.mapAnchor id = n := by
  cases n <;> rfl

/-- A node has an anchor exactly if it is a link. -/
theorem anchor?_eq_link? (n : Node) : n.anchor? = n.link?.map Link.toAnchor := by
  cases n <;> rfl

/-- Only what a change makes of the anchor that is there counts. -/
theorem mapAnchor_congr {f g : Anchor → Anchor} {n : Node} (h : ∀ a, n.anchor? = some a → f a = g a) :
    n.mapAnchor f = n.mapAnchor g := by
  cases n with
  | link a c => simp [mapAnchor, h a rfl]
  | _ => rfl

/-- A shell and a content make one node. -/
theorem eq_of_shell_of_content {n m : Node} (hs : n.shell = m.shell) (hc : n.content = m.content) :
    n = m := by
  cases n <;> cases m <;> simp_all [shell, withContent, content, content?]

/-! ## Going down -/

/-- The node itself, or the node at a path in its content. -/
def below? (n : Node) : Path → Option Node
  | [] => some n
  | j :: p => at? n.content (j :: p)

theorem at?_no_nodes (p : Path) : at? [] p = none := by
  match p with
  | [] => rfl
  | [i] => simp [at?]
  | i :: j :: p => simp [at?]

theorem at?_cons (ns : List Node) (k : Nat) (p : Path) : at? ns (k :: p) = ns[k]?.bind fun n => n.below? p := by
  cases p with
  | nil => simp [at?, below?]
  | cons j p => rfl

/-- A path goes on from the node at its beginning, if it has one. -/
theorem at?_append_eq (ns : List Node) {q : Path} (hq : q ≠ []) (p : Path) :
    at? ns (q ++ p) = (at? ns q).bind fun n => n.below? p := by
  match q with
  | [] => exact absurd rfl hq
  | [k] => rw [List.singleton_append, at?_cons, at?]
  | k :: j :: q =>
    have hdown := fun n : Node => at?_append_eq n.content (List.cons_ne_nil j q) p
    rw [List.cons_append, at?_cons, at?, Option.bind_assoc]
    exact congrArg ns[k]?.bind (funext hdown)

/-- So it goes on from a node that stands at its beginning. -/
theorem at?_append {ns : List Node} {q : Path} {n : Node} (h : at? ns q = some n) (p : Path) :
    at? ns (q ++ p) = n.below? p := by
  have hq : q ≠ [] := by
    rintro rfl
    cases h
  rw [at?_append_eq ns hq, h, Option.bind_some]

/-! ## The shell at a path -/

@[simp] theorem shellAt?_nil (ns : List Node) : shellAt? ns [] = none := by
  simp [shellAt?, at?]

theorem shellAt?_singleton (ns : List Node) (i : Nat) : shellAt? ns [i] = ns[i]?.map shell := by
  simp [shellAt?, at?]

theorem shellAt?_cons_cons (ns : List Node) (i j : Nat) (p : Path) :
    shellAt? ns (i :: j :: p) = ns[i]?.bind fun n => shellAt? n.content (j :: p) := by
  simp only [shellAt?, at?]
  cases ns[i]? <;> rfl

/-! ## Changing the node at a path -/

/-- Change the node at a path. -/
def modifyAt (f : Node → Node) : List Node → Path → List Node
  | ns, [] => ns
  | ns, [i] => ns.modify i f
  | ns, i :: j :: p => ns.modify i fun n => n.withContent (modifyAt f n.content (j :: p))

section

variable {f : Node → Node}

theorem modifyAt_no_nodes (p : Path) : modifyAt f [] p = [] := by
  match p with
  | [] => rfl
  | [i] => rw [modifyAt, List.modify_nil]
  | i :: j :: p => rw [modifyAt, List.modify_nil]

/-- A text has no content, and no change below it gives it one. -/
theorem content_withContent_modifyAt (n : Node) (p : Path) :
    (n.withContent (modifyAt f n.content p)).content = modifyAt f n.content p := by
  cases n with
  | text => exact (modifyAt_no_nodes p).symm
  | _ => rfl

/-- The node at the path of a change is the changed one. -/
theorem at?_modifyAt (ns : List Node) (p : Path) : at? (modifyAt f ns p) p = (at? ns p).map f := by
  match p with
  | [] => rfl
  | [i] => simp [modifyAt, at?]
  | i :: j :: p =>
    rw [modifyAt, at?, at?, List.getElem?_modify_eq]
    cases ns[i]? with
    | none => rfl
    | some n =>
      rw [Option.map_eq_map, Option.map_some, Option.bind_some, Option.bind_some, content_withContent_modifyAt]
      exact at?_modifyAt n.content (j :: p)

/-- The node at a path is as it was when the change is made elsewhere: neither above nor below it. -/
theorem at?_modifyAt_of_apart {ns : List Node} {p q : Path} (hpq : ¬ p <+: q) (hqp : ¬ q <+: p) :
    at? (modifyAt f ns p) q = at? ns q := by
  -- Both paths are taken apart together up to the first index that differs.
  match p, q with
  | [], _ => exact absurd List.nil_prefix hpq
  | _ :: _, [] => exact absurd List.nil_prefix hqp
  | [i], k :: q =>
    -- The shorter path ends here, so the indices must differ or it would be a beginning of the other.
    have hik : i ≠ k := fun h => hpq (List.cons_prefix_cons.mpr ⟨h, List.nil_prefix⟩)
    rw [modifyAt, at?_cons, at?_cons, List.getElem?_modify_ne _ _ hik]
  | i :: j :: p, [k] =>
    have hik : i ≠ k := fun h => hqp (List.cons_prefix_cons.mpr ⟨h.symm, List.nil_prefix⟩)
    rw [modifyAt, at?, at?, List.getElem?_modify_ne _ _ hik]
  | i :: j :: p, k :: l :: q =>
    rw [modifyAt, at?, at?]
    by_cases hik : i = k
    · subst hik
      rw [List.cons_prefix_cons] at hpq hqp
      rw [List.getElem?_modify_eq]
      cases ns[i]? with
      | none => rfl
      | some n =>
        rw [Option.map_eq_map, Option.map_some, Option.bind_some, Option.bind_some, content_withContent_modifyAt]
        exact at?_modifyAt_of_apart (fun h => hpq ⟨rfl, h⟩) fun h => hqp ⟨rfl, h⟩
    · rw [List.getElem?_modify_ne _ _ hik]

/-- In a node above a change only the content is changed. -/
theorem at?_modifyAt_below (ns : List Node) (q : Path) (i : Nat) (r : Path) :
    at? (modifyAt f ns (q ++ i :: r)) q = (at? ns q).map fun n => n.withContent (modifyAt f n.content (i :: r)) := by
  match q with
  | [] => rfl
  | [k] => rw [List.singleton_append, modifyAt, at?, at?, List.getElem?_modify_eq, Option.map_eq_map]
  | k :: l :: q =>
    rw [List.cons_append, List.cons_append, modifyAt, at?, at?, List.getElem?_modify_eq]
    cases ns[k]? with
    | none => rfl
    | some n =>
      rw [Option.map_eq_map, Option.map_some, Option.bind_some, Option.bind_some, content_withContent_modifyAt]
      exact at?_modifyAt_below n.content (l :: q) i r

/-- The shell at a path is as it was when the change is made neither there nor above. -/
theorem shellAt?_modifyAt {ns : List Node} {p q : Path} (h : ¬ p <+: q) :
    shellAt? (modifyAt f ns p) q = shellAt? ns q := by
  by_cases hqp : q <+: p
  · obtain ⟨r, rfl⟩ := hqp
    cases r with
    | nil => exact absurd (by simp) h
    | cons i r =>
      rw [shellAt?, shellAt?, at?_modifyAt_below, Option.map_map]
      exact congrArg ((at? ns q).map ·) (funext fun n => shell_withContent _ n)
  · rw [shellAt?, shellAt?, at?_modifyAt_of_apart h hqp]

/-- A change that leaves the content of a node is not seen below it. -/
theorem at?_modifyAt_above (hf : ∀ n, (f n).content = n.content) (ns : List Node) (q : Path) (i : Nat) (r : Path) :
    at? (modifyAt f ns q) (q ++ i :: r) = at? ns (q ++ i :: r) := by
  by_cases hq : q = []
  · subst hq
    rfl
  · rw [at?_append_eq _ hq, at?_append_eq _ hq, at?_modifyAt]
    cases at? ns q with
    | none => rfl
    | some n => rw [Option.map_some, Option.bind_some, Option.bind_some, below?, below?, hf]

end

/-! ## Changing the link at a path -/

theorem changeAnchor_singleton (f : Anchor → Anchor) (ns : List Node) (i : Nat) :
    changeAnchor f ns [i] = ns.modify i (mapAnchor f) := rfl

theorem changeAnchor_cons_cons (f : Anchor → Anchor) (ns : List Node) (i j : Nat) (p : Path) :
    changeAnchor f ns (i :: j :: p) =
      ns.modify i fun n => n.withContent (changeAnchor f n.content (j :: p)) := rfl

/-- The model changes a link in place, and so does changing the node at its path. -/
theorem changeAnchor_eq_modifyAt (f : Anchor → Anchor) (ns : List Node) (p : Path) :
    changeAnchor f ns p = modifyAt (mapAnchor f) ns p := by
  match p with
  | [] => rfl
  | [i] => rfl
  | i :: j :: p =>
    rw [changeAnchor, modifyAt]
    refine congrArg (ns.modify i) (funext fun n => ?_)
    rw [changeAnchor_eq_modifyAt f n.content (j :: p)]

/-- A text has no content, and changing links below it gives it none. -/
theorem content_withContent_changeAnchor (f : Anchor → Anchor) (n : Node) (p : Path) :
    (n.withContent (changeAnchor f n.content p)).content = changeAnchor f n.content p := by
  rw [changeAnchor_eq_modifyAt]
  exact content_withContent_modifyAt n p

/-- Changing the link at `q` changes the shell at `q` and nothing else. -/
theorem shellAt?_changeAnchor (f : Anchor → Anchor) (ns : List Node) (p q : Path) :
    shellAt? (changeAnchor f ns q) p =
      if p = q then (shellAt? ns p).map (mapAnchor f) else shellAt? ns p := by
  rw [changeAnchor_eq_modifyAt]
  split
  next heq =>
    subst heq
    rw [shellAt?, shellAt?, at?_modifyAt, Option.map_map, Option.map_map]
    exact congrArg ((at? ns p).map ·) (funext (shell_mapAnchor f))
  next hne =>
    by_cases hqp : q <+: p
    · -- Below a link everything is as it was, since its content is.
      obtain ⟨r, rfl⟩ := hqp
      cases r with
      | nil => exact absurd (List.append_nil q) hne
      | cons i r => rw [shellAt?, shellAt?, at?_modifyAt_above (content_mapAnchor f)]
    · exact shellAt?_modifyAt hqp

/-! ## Lists of nodes are known by their shells -/

/-- There are fewer nodes inside a node than in a list that it stands in. -/
theorem countAll_content_lt {ns : List Node} {n : Node} (h : n ∈ ns) : countAll n.content < countAll ns := by
  induction ns with
  | nil => cases h
  | cons m r ih =>
    rcases List.mem_cons.mp h with rfl | hr
    · simp only [countAll, count_eq n]
      omega
    · have := ih hr
      simp only [countAll]
      omega

/-- Lists of nodes with the same shells at all paths are equal. The recursion is on the number of nodes, since the
content of a node is no part of the list it stands in. -/
theorem eq_of_shellAt? {ns ms : List Node} (h : ∀ p, shellAt? ns p = shellAt? ms p) : ns = ms := by
  apply List.ext_getElem?
  intro i
  have hi := h [i]
  rw [shellAt?_singleton, shellAt?_singleton] at hi
  cases hn : ns[i]? with
  | none =>
    rw [hn, Option.map_none] at hi
    exact (Option.map_eq_none_iff.mp hi.symm).symm
  | some n =>
    cases hm : ms[i]? with
    | none => simp [hn, hm] at hi
    | some m =>
      have hs : n.shell = m.shell := by simpa [hn, hm] using hi
      -- Below the nodes the shells are the same too, and there are fewer of them.
      have hdown : ∀ p, shellAt? n.content p = shellAt? m.content p := by
        intro p
        cases p with
        | nil => simp
        | cons j p => simpa [shellAt?_cons_cons, hn, hm] using h (i :: j :: p)
      have hlt : countAll n.content < countAll ns := countAll_content_lt (List.mem_of_getElem? hn)
      exact congrArg some (eq_of_shell_of_content hs (eq_of_shellAt? hdown))
termination_by countAll ns

end Node

namespace Document

/-- The shell at a path. -/
def shell? (d : Document) (p : Path) : Option Node := Node.shellAt? d.nodes p

/-- What the link at a path says apart from its content. -/
def anchor? (d : Document) (p : Path) : Option Anchor := (d.shell? p).bind Node.anchor?

/-- The same at a path of a document. -/
theorem anchor?_eq_link? (d : Document) (p : Path) : d.anchor? p = (d.link? p).map Link.toAnchor := by
  unfold anchor? shell? Node.shellAt? link?
  cases Node.at? d.nodes p with
  | none => rfl
  | some n => exact (Node.anchor?_shell n).trans (Node.anchor?_eq_link? n)

/-- Where an anchor is, the shell is that of a link. -/
theorem shell?_of_anchor? {d : Document} {p : Path} {a : Anchor} (h : d.anchor? p = some a) :
    d.shell? p = some (.link a []) := by
  unfold anchor? shell? Node.shellAt? at *
  cases hn : Node.at? d.nodes p with
  | none => simp [hn] at h
  | some n => cases n <;> simp_all [Node.anchor?, Node.shell, Node.withContent]

/-- Changing the link at a path changes the shell there and no other. -/
theorem shell?_changeAnchor (d : Document) (f : Anchor → Anchor) (p q : Path) :
    (d.changeAnchor q f).shell? p =
      if p = q then (d.shell? p).map (Node.mapAnchor f) else d.shell? p :=
  Node.shellAt?_changeAnchor f d.nodes p q

/-- The same shells everywhere are the same document. -/
theorem eq_of_shell? {d e : Document} (hp : d.position = e.position) (h : ∀ p, d.shell? p = e.shell? p) :
    d = e := by
  cases d
  cases e
  simp only [mk.injEq]
  exact ⟨Node.eq_of_shellAt? h, hp⟩

/-- One document becomes another by changes to what the links at some paths say; `rel` tells how. -/
structure Becomes (d : Document) (paths : List Path) (rel : Path → Anchor → Anchor → Prop) (e : Document) :
    Prop where
  position : e.position = d.position
  apart : ∀ p ∉ paths, e.shell? p = d.shell? p
  links : ∀ p ∈ paths, ∃ a b, d.shell? p = some (.link a []) ∧ e.shell? p = some (.link b []) ∧ rel p a b

/-- What is told of the changes may be weakened. -/
theorem Becomes.imp {d e : Document} {paths : List Path} {rel rel' : Path → Anchor → Anchor → Prop}
    (h : d.Becomes paths rel e) (hrel : ∀ p ∈ paths, ∀ a b, rel p a b → rel' p a b) :
    d.Becomes paths rel' e where
  position := h.position
  apart := h.apart
  links p hp := by
    obtain ⟨a, b, ha, hb, hab⟩ := h.links p hp
    exact ⟨a, b, ha, hb, hrel p hp a b hab⟩

/-- Links that are left as they are leave the document as it is. -/
theorem Becomes.eq {d e : Document} {paths : List Path} {rel : Path → Anchor → Anchor → Prop}
    (h : d.Becomes paths rel e) (hrel : ∀ p ∈ paths, ∀ a b, rel p a b → b = a) : e = d := by
  refine eq_of_shell? h.position fun p => ?_
  by_cases hp : p ∈ paths
  · obtain ⟨a, b, ha, hb, hab⟩ := h.links p hp
    rw [ha, hb, hrel p hp a b hab]
  · exact h.apart p hp

end Document

end LinkEmbed
