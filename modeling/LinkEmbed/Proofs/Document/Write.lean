import LinkEmbed.Proofs.Document.Order
import Mathlib.Data.List.Infix

/-!
# References to links

A link that may be embedded can be written through its path, with all it holds.

* `Document.eq_of_prefix_barePaths` — the paths of two such links part before either ends.
* `Document.link?_writeAll`, `Document.shell?_writeAll` — so whatever is written through one leaves the others and
  all nodes that do not stand below it as they are.
* `Document.changeAnchor_eq_changeLink` — changing what a link says is one way to write it.
* `Document.mem_barePaths_iff_shape` — which links these are, by their shape.
* `Document.bareLinks_in_document_order` — which links they are and what writing through them does.
-/

namespace LinkEmbed

/-- The link as a node. -/
def Link.toNode (l : Link) : Node := .link l.toAnchor l.content

namespace Node

/-- Change a link with all it holds; what is no link stays. -/
def mapLink (f : Link → Link) (n : Node) : Node :=
  match n.link? with
  | some l => (f l).toNode
  | none => n

/-! ## Single nodes -/

theorem link?_mapLink (f : Link → Link) (n : Node) : (n.mapLink f).link? = n.link?.map f := by
  unfold mapLink
  cases n <;> rfl

/-- Changing what a link says apart from its content is changing the link. -/
theorem mapAnchor_eq_mapLink (f : Anchor → Anchor) :
    mapAnchor f = mapLink fun l => { l with toAnchor := f l.toAnchor } := by
  funext n
  cases n <;> rfl

end Node

namespace Document

variable {d : Document}

/-! ## Paths that part -/

/-- Below a link that may be embedded stands no other. -/
theorem eq_of_prefix_barePaths {p q : Path} (hp : p ∈ d.barePaths) (hq : q ∈ d.barePaths) (h : p <+: q) :
    p = q := by
  obtain ⟨l, hl, hbare⟩ := bare_of_mem_barePaths hp
  obtain ⟨n, hn, hlink⟩ := Option.bind_eq_some_iff.mp hl
  obtain ⟨-, position, hcontent⟩ := Node.isBare_iff.mp hbare
  obtain ⟨r, rfl⟩ := h
  cases r with
  | nil => rw [List.append_nil]
  | cons j r =>
    -- All that stands below is the text.
    obtain ⟨l', hl', -⟩ := bare_of_mem_barePaths hq
    rw [link?, Node.at?_append hn, Node.below?] at hl'
    have htext : n.content = [.text position l.url] := by
      cases n with
      | link a c => exact (Option.some.inj hlink) ▸ hcontent
      | _ => cases hlink
    rw [htext, Node.at?_cons] at hl'
    cases j with
    | succ j => cases hl'
    | zero =>
      cases r with
      | nil => cases hl'
      | cons k r =>
        rw [List.getElem?_cons_zero, Option.bind_some, Node.below?, Node.content, Node.content?, Option.getD_none,
          Node.at?_no_nodes] at hl'
        cases hl'

/-! ## Writing through references -/

/-- Change the link at a path with all it holds. -/
def changeLink (d : Document) (p : Path) (f : Link → Link) : Document :=
  { d with nodes := Node.modifyAt (Node.mapLink f) d.nodes p }

/-- Writing what a link says apart from its content is a change of the link. -/
theorem changeAnchor_eq_changeLink (d : Document) (p : Path) (f : Anchor → Anchor) :
    d.changeAnchor p f = d.changeLink p fun l => { l with toAnchor := f l.toAnchor } := by
  rw [changeAnchor, changeLink, Node.changeAnchor_eq_modifyAt, Node.mapAnchor_eq_mapLink]

/-- Write through references one after another, each given by its number among the paths. -/
def writeAll (d : Document) (paths : List Path) (writes : List (Fin paths.length × (Link → Link))) : Document :=
  writes.foldl (fun d w => d.changeLink paths[w.1] w.2) d

/-- What the writes through one reference make of its link. -/
def written {n : Nat} (writes : List (Fin n × (Link → Link))) (i : Fin n) (l : Link) : Link :=
  (writes.filter fun w => w.1 = i).foldl (fun l w => w.2 l) l

/-- The link at the path of a write is the written one. -/
theorem link?_changeLink (d : Document) (p : Path) (f : Link → Link) :
    (d.changeLink p f).link? p = (d.link? p).map f := by
  rw [link?, link?, changeLink, Node.at?_modifyAt]
  cases Node.at? d.nodes p with
  | none => rfl
  | some n => exact Node.link?_mapLink f n

/-- A link at a path that parts from that of a write is as it was. -/
theorem link?_changeLink_of_apart (d : Document) {p q : Path} (f : Link → Link) (hpq : ¬ p <+: q)
    (hqp : ¬ q <+: p) : (d.changeLink p f).link? q = d.link? q := by
  rw [link?, link?, changeLink, Node.at?_modifyAt_of_apart hpq hqp]

/-- Each link is what the writes through its own reference make of it, whatever is written through others. -/
theorem link?_writeAll {paths : List Path} (hparts : ∀ i j : Fin paths.length, paths[i] <+: paths[j] → i = j)
    (writes : List (Fin paths.length × (Link → Link))) (d : Document) (i : Fin paths.length) :
    (d.writeAll paths writes).link? paths[i] = (d.link? paths[i]).map (written writes i) := by
  induction writes generalizing d with
  | nil => exact Option.map_id'.symm
  | cons w rest ih =>
    obtain ⟨j, f⟩ := w
    -- The first write, and then the others from the document that it leaves.
    refine (ih (d.changeLink paths[j] f)).trans ?_
    by_cases hij : j = i
    · subst hij
      rw [link?_changeLink, Option.map_map]
      refine congrArg (Option.map · _) (funext fun l => ?_)
      simp [written]
    · rw [link?_changeLink_of_apart d f (fun h => hij (hparts j i h)) fun h => hij (hparts i j h).symm]
      refine congrArg (Option.map · _) (funext fun l => ?_)
      simp [written, hij]

/-- Nodes that do not stand at or below a link that is written keep their shell. -/
theorem shell?_writeAll {paths : List Path} (writes : List (Fin paths.length × (Link → Link))) (d : Document)
    {q : Path} (h : ∀ w ∈ writes, ¬ paths[w.1] <+: q) : (d.writeAll paths writes).shell? q = d.shell? q := by
  induction writes generalizing d with
  | nil => rfl
  | cons w rest ih =>
    obtain ⟨hw, hrest⟩ := List.forall_mem_cons.mp h
    exact (ih (d.changeLink paths[w.1] w.2) hrest).trans (Node.shellAt?_modifyAt hw)

/-- No write moves the document. -/
theorem position_writeAll {paths : List Path} (writes : List (Fin paths.length × (Link → Link)))
    (d : Document) : (d.writeAll paths writes).position = d.position := by
  induction writes generalizing d with
  | nil => rfl
  | cons w rest ih => exact ih (d.changeLink paths[w.1] w.2)

/-! ## The links that may be embedded -/

/-- The links that may be embedded are alone in a paragraph, have no hint or the hint `a`, and hold nothing but
their own destination as text. -/
theorem mem_barePaths_iff_shape {p : Path} :
    p ∈ d.barePaths ↔ ∃ q position a textPosition, p = q ++ [0] ∧
      Node.at? d.nodes q = some (.paragraph position [.link a [.text textPosition a.url]]) ∧
      (a.hint = none ∨ a.hint = some "a") := by
  have hhint : ∀ a : Anchor, a.rendersAsAnchor = true ↔ a.hint = none ∨ a.hint = some "a" := by
    intro a
    unfold Anchor.rendersAsAnchor
    cases a.hint <;> simp
  rw [mem_barePaths_iff]
  constructor
  · rintro ⟨q, position, n, rfl, hat, l, hl, hbare⟩
    obtain ⟨hanchor, textPosition, hcontent⟩ := Node.isBare_iff.mp hbare
    refine ⟨q, position, l.toAnchor, textPosition, rfl, ?_, (hhint _).mp hanchor⟩
    -- Only a link has the fields of one.
    cases n with
    | link a c => rw [hat, ← hcontent, ← Option.some.inj hl]
    | _ => cases hl
  · rintro ⟨q, position, a, textPosition, rfl, hat, ha⟩
    refine ⟨q, position, _, rfl, hat, ⟨a, [.text textPosition a.url]⟩, rfl, Node.isBare_iff.mpr ⟨?_, ?_⟩⟩
    · exact (hhint a).mpr ha
    · exact ⟨textPosition, rfl⟩

/-- References to links that may be embedded part before either ends. -/
theorem eq_of_prefix_getElem {i j : Fin d.barePaths.length} (h : d.barePaths[i] <+: d.barePaths[j]) : i = j := by
  have heq := eq_of_prefix_barePaths (List.getElem_mem i.isLt) (List.getElem_mem j.isLt) h
  exact Fin.ext ((List.Nodup.getElem_inj_iff d.nodup_barePaths).mp heq)

/-- **The links that may be embedded, in document order.** The places of links increase, and the walk finds the
links that stand there. Among them, in the same order, are the places of links that are alone in a paragraph, have
no hint or the hint `a`, and hold nothing but their own destination as text. Whatever is written through references
to these, in any order and however often, each link becomes what the writes through its own reference make of it,
and all that stands at or below no written link keeps its shell. -/
theorem bareLinks_in_document_order (d : Document) :
    d.linkPaths.Pairwise (· < ·) ∧ (∀ p, p ∈ d.linkPaths ↔ (d.link? p).isSome) ∧
      d.linkPaths.map d.link? = d.links.map some ∧
      d.barePaths.Sublist d.linkPaths ∧ d.barePaths.map d.link? = d.bareLinks.map some ∧
      (∀ p, p ∈ d.barePaths ↔ ∃ q position a textPosition, p = q ++ [0] ∧
        Node.at? d.nodes q = some (.paragraph position [.link a [.text textPosition a.url]]) ∧
        (a.hint = none ∨ a.hint = some "a")) ∧
      ∀ writes : List (Fin d.barePaths.length × (Link → Link)),
        let after := d.writeAll d.barePaths writes
        (∀ i, after.link? d.barePaths[i] = (d.link? d.barePaths[i]).map (written writes i)) ∧
          (∀ q, (∀ w ∈ writes, ¬ d.barePaths[w.1] <+: q) → after.shell? q = d.shell? q) ∧
          after.position = d.position := by
  refine ⟨d.pairwise_linkPaths, fun p => mem_linkPaths_iff, d.map_link?_linkPaths, d.barePaths_sublist,
    d.map_link?_barePaths, fun p => mem_barePaths_iff_shape, fun writes => ⟨fun i => ?_, fun q hq => ?_, ?_⟩⟩
  · exact link?_writeAll (fun i j => eq_of_prefix_getElem) writes d i
  · exact shell?_writeAll writes d hq
  · exact position_writeAll writes d

end Document

end LinkEmbed
