import LinkEmbed.Html.Page

/-!
# Trees that grow

While content is read, new nodes come behind the children of one node, and all other nodes that were there before
stay as they are. So what a node and those below it stand for does not change any more once the node is closed.

* `Tree.grows_addLast`, `Tree.Grows.trans`, `Tree.Grows.below` — how a tree grows: by one node, step after step, and
  by all that comes below a new node.
* `Tree.Holds.of_same` — what nodes stand for depends on these nodes alone.
* `Tree.Holds.markup?_eq` — a node is read as the markup that it stands for.
-/

namespace LinkEmbed.Html.Tree

/-! ## New nodes -/

theorem size_modify (t : Tree) (i : Nat) (f : TreeNode → TreeNode) : (t.modify i f).size = t.size :=
  Array.size_modify

/-- A change of one node leaves the others. -/
theorem node_modify (t : Tree) (i : Nat) (f : TreeNode → TreeNode) {j : Nat} (hj : j < t.size) :
    (t.modify i f).node j = if j = i then f (t.node j) else t.node j := by
  have hj' : j < t.nodes.size := hj
  unfold node modify
  rw [Array.getElem?_modify]
  by_cases hij : i = j
  · subst hij
    simp [hj']
  · rw [if_neg hij, if_neg (Ne.symm hij)]

theorem size_add (t : Tree) (kind : NodeKind) : (t.add kind).size = t.size + 1 := Array.size_push _

/-- A new node has neither parent nor children yet. -/
theorem node_add (t : Tree) (kind : NodeKind) (j : Nat) :
    (t.add kind).node j = if j = t.size then { kind } else t.node j := by
  unfold node add size
  rw [Array.getElem?_push]
  split <;> rfl

/-- Put a new node behind the children of a node. -/
def addLast (t : Tree) (p : Nat) (kind : NodeKind) : Tree := (t.add kind).append p t.size

theorem size_addLast (t : Tree) (p : Nat) (kind : NodeKind) : (t.addLast p kind).size = t.size + 1 := by
  rw [addLast, append, size_modify, size_modify, size_add]

/-- Then it has its parent, which has one more child, and the others are as they were. -/
theorem node_addLast {t : Tree} {p : Nat} (hp : p < t.size) (kind : NodeKind) {j : Nat} (hj : j ≤ t.size) :
    (t.addLast p kind).node j =
      if j = t.size then { kind, parent := some p }
      else if j = p then { t.node p with children := (t.node p).children.push t.size }
      else t.node j := by
  have hsize : j < (t.add kind).size := by
    rw [size_add]
    omega
  rw [addLast, append, node_modify _ _ _ (by rwa [size_modify]), node_modify _ _ _ hsize, node_add]
  by_cases hnew : j = t.size
  · have hne : t.size ≠ p := by omega
    simp [hnew, hne]
  · by_cases hparent : j = p
    · subst hparent
      simp [hnew]
    · simp [hnew, hparent]

/-! ## Growing below one node -/

/-- A tree that has grown from another: new nodes stand behind the children of `p`, and other nodes are as they
were. -/
structure Grows (t t' : Tree) (p : Nat) (new : List Nat) : Prop where
  size_le : t.size ≤ t'.size
  kind : (t'.node p).kind = (t.node p).kind
  children : (t'.node p).children.toList = (t.node p).children.toList ++ new
  others : ∀ i < t.size, i ≠ p → t'.node i = t.node i

theorem Grows.refl (t : Tree) (p : Nat) : Grows t t p [] :=
  ⟨Nat.le_refl _, rfl, (List.append_nil _).symm, fun _ _ _ => rfl⟩

/-- Growth of one node adds up. -/
theorem Grows.trans {t t' t'' : Tree} {p : Nat} {new new' : List Nat} (h : Grows t t' p new)
    (h' : Grows t' t'' p new') : Grows t t'' p (new ++ new') where
  size_le := Nat.le_trans h.size_le h'.size_le
  kind := h'.kind.trans h.kind
  children := by rw [h'.children, h.children, List.append_assoc]
  others := by
    intro i hi hne
    rw [h'.others i (Nat.lt_of_lt_of_le hi h.size_le) hne, h.others i hi hne]

/-- No node that was there becomes of another kind. -/
theorem Grows.kind_eq {t t' : Tree} {p : Nat} {new : List Nat} (h : Grows t t' p new) {i : Nat} (hi : i < t.size) :
    (t'.node i).kind = (t.node i).kind := by
  by_cases hp : i = p
  · subst hp
    exact h.kind
  · rw [h.others i hi hp]

/-- One new node behind the children of a node is growth of that node. -/
theorem grows_addLast {t : Tree} {p : Nat} (hp : p < t.size) (kind : NodeKind) :
    Grows t (t.addLast p kind) p [t.size] := by
  have hparent : (t.addLast p kind).node p = { t.node p with children := (t.node p).children.push t.size } := by
    rw [node_addLast hp kind (Nat.le_of_lt hp), if_neg (Nat.ne_of_lt hp), if_pos rfl]
  refine ⟨?_, ?_, ?_, ?_⟩
  · rw [size_addLast]
    exact Nat.le_succ _
  · rw [hparent]
  · rw [hparent, Array.toList_push]
  · intro i hi hne
    rw [node_addLast hp kind (Nat.le_of_lt hi), if_neg (Nat.ne_of_lt hi), if_neg hne]

/-- What a new node has got below it since counts as growth of its parent. -/
theorem Grows.below {t t' : Tree} {p : Nat} (hp : p < t.size) {kind : NodeKind} {new : List Nat}
    (h : Grows (t.addLast p kind) t' t.size new) : Grows t t' p [t.size] := by
  have hfirst := grows_addLast hp kind
  have hsame : ∀ i < t.size, t'.node i = (t.addLast p kind).node i := by
    intro i hi
    refine h.others i ?_ (Nat.ne_of_lt hi)
    rw [size_addLast]
    omega
  refine ⟨Nat.le_trans hfirst.size_le h.size_le, ?_, ?_, ?_⟩
  · rw [hsame p hp, hfirst.kind]
  · rw [hsame p hp, hfirst.children]
  · intro i hi hne
    rw [hsame i hi, hfirst.others i hi hne]

/-! ## What a node stands for -/

/-- The properties of an element in a page. -/
def propertiesOf (attributes : List Attribute) : Properties :=
  .ofList ((sortAttributes .html attributes).map fun a => (a.name, .text a.value))

mutual

/-- A node and those below it stand for a piece of markup. Nodes below others have greater numbers. -/
def Holds (t : Tree) : Markup → Nat → Nat → Prop
  | .element tag p children, low, i =>
    low ≤ i ∧ i < t.size ∧
      (∃ attributes, (t.node i).kind = .element (.html tag) attributes ∧ propertiesOf attributes = p) ∧
      AllHold t children (i + 1) (t.node i).children.toList
  | .text s, low, i => low ≤ i ∧ i < t.size ∧ (t.node i).kind = .text s
  | .comment s, low, i => low ≤ i ∧ i < t.size ∧ (t.node i).kind = .comment s

/-- Nodes stand for pieces of markup, one for one. -/
def AllHold (t : Tree) : List Markup → Nat → List Nat → Prop
  | [], _, is => is = []
  | m :: ms, low, is => ∃ i r, is = i :: r ∧ Holds t m low i ∧ AllHold t ms low r

end

mutual

/-- What nodes stand for does not change when only other nodes do. -/
theorem Holds.of_same {t t' : Tree} (hsize : t.size ≤ t'.size) {m : Markup} {low low' i : Nat} (hlow : low' ≤ low)
    (hsame : ∀ j, low ≤ j → j < t.size → t'.node j = t.node j) (h : Holds t m low i) : Holds t' m low' i := by
  match m, h with
  | .element tag p children, ⟨hi, hin, ⟨attributes, hkind, hp⟩, hchildren⟩ =>
    have hnode := hsame i hi hin
    refine ⟨Nat.le_trans hlow hi, Nat.lt_of_lt_of_le hin hsize, ⟨attributes, ?_, hp⟩, ?_⟩
    · rw [hnode, hkind]
    · rw [hnode]
      refine AllHold.of_same hsize (Nat.le_refl _) ?_ hchildren
      intro j hj
      -- Children have greater numbers than their parent, so they are among the nodes that stay.
      exact hsame j (Nat.le_trans hi (Nat.le_of_succ_le hj))
  | .text s, ⟨hi, hin, hkind⟩ =>
    exact ⟨Nat.le_trans hlow hi, Nat.lt_of_lt_of_le hin hsize, by rw [hsame i hi hin, hkind]⟩
  | .comment s, ⟨hi, hin, hkind⟩ =>
    exact ⟨Nat.le_trans hlow hi, Nat.lt_of_lt_of_le hin hsize, by rw [hsame i hi hin, hkind]⟩

/-- The same for nodes one behind another. -/
theorem AllHold.of_same {t t' : Tree} (hsize : t.size ≤ t'.size) {ms : List Markup} {low low' : Nat}
    {is : List Nat} (hlow : low' ≤ low) (hsame : ∀ j, low ≤ j → j < t.size → t'.node j = t.node j)
    (h : AllHold t ms low is) : AllHold t' ms low' is := by
  match ms, h with
  | [], h => exact h
  | m :: ms, ⟨i, r, his, hm, hms⟩ =>
    exact ⟨i, r, his, hm.of_same hsize hlow hsame, hms.of_same hsize hlow hsame⟩

end

mutual

/-- A node is read as the markup that it stands for, if the bound on the depth leaves room for all nodes behind
it. -/
theorem Holds.markup?_eq {t : Tree} {m : Markup} {low i : Nat} (h : Holds t m low i) {depth : Nat}
    (hdepth : t.size ≤ depth + i) : t.markup? depth i = some m := by
  match m, h with
  | .element tag p children, ⟨_, hin, ⟨attributes, hkind, hp⟩, hchildren⟩ =>
    obtain ⟨depth, rfl⟩ : ∃ d, depth = d + 1 := ⟨depth - 1, by omega⟩
    -- Nodes below have greater numbers, so one level less is enough for them.
    have hbelow := hchildren.filterMap_eq depth (by omega)
    rw [markup?]
    simp only [hkind, hbelow]
    rw [← hp]
    rfl
  | .text s, ⟨_, hin, hkind⟩ =>
    obtain ⟨depth, rfl⟩ : ∃ d, depth = d + 1 := ⟨depth - 1, by omega⟩
    rw [markup?]
    simp only [hkind]
  | .comment s, ⟨_, hin, hkind⟩ =>
    obtain ⟨depth, rfl⟩ : ∃ d, depth = d + 1 := ⟨depth - 1, by omega⟩
    rw [markup?]
    simp only [hkind]

/-- The same for the children of a node. -/
theorem AllHold.filterMap_eq {t : Tree} {ms : List Markup} {low : Nat} {is : List Nat} (h : AllHold t ms low is)
    (depth : Nat) (hdepth : t.size ≤ depth + low) : is.filterMap (t.markup? depth) = ms := by
  match ms, h with
  | [], h =>
    rw [h]
    rfl
  | m :: ms, ⟨i, r, his, hm, hms⟩ =>
    have hlow : low ≤ i := by
      cases m <;> exact hm.1
    rw [his, List.filterMap_cons, hm.markup?_eq (by omega), hms.filterMap_eq depth hdepth]

end

/-! ## Attributes in order -/

/-- Attributes without namespace that are in the order of names stay in order. -/
theorem sortAttributes_of_pairwise {attributes : List Attribute}
    (hplain : ∀ a ∈ attributes, a.label = none) (h : (attributes.map (·.name)).Pairwise (· < ·)) :
    sortAttributes .html attributes = attributes := by
  induction attributes with
  | nil => rfl
  | cons a r ih =>
    obtain ⟨hfirst, hr⟩ := List.pairwise_cons.mp h
    have hrest : sortAttributes .html r = r := ih (fun b hb => hplain b (List.mem_cons_of_mem a hb)) hr
    have hcons : sortAttributes .html (a :: r) = insertAttribute .html a (sortAttributes .html r) := rfl
    -- The rest is in order, so the first attribute stays where it is if it is before the second.
    rw [hcons, hrest]
    cases r with
    | nil => rfl
    | cons b r =>
      have ha := hplain a List.mem_cons_self
      have hb := hplain b (List.mem_cons_of_mem a List.mem_cons_self)
      have hlt : a.name < b.name := hfirst b.name List.mem_cons_self
      have hbefore : keyBefore (a.key .html) (b.key .html) = true := by
        simp [keyBefore, Attribute.key, ha, hb, hlt]
      rw [insertAttribute, if_pos hbefore]

end LinkEmbed.Html.Tree
