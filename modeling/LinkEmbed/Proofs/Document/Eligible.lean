import LinkEmbed.Proofs.Document.Place
import Mathlib.Data.List.Nodup

/-!
# The links that may be embedded

The model finds the links that may be embedded by a recursion with a flag; here is what it finds, said by paths.

* `Document.mem_barePaths_iff` — they are the bare links that are alone in a paragraph.
* `Document.nodup_barePaths` — each is found once.
* `Document.barePaths_changeEmbed` — the embeds of links do not count for this.
* `Node.countAll_changeAnchor` — neither do links count for the number of nodes by what they say.
-/

namespace LinkEmbed

namespace Node

/-- The paths below a list of nodes are the paths below its nodes, with their index before them. -/
theorem mem_barePathsAll {sole : Bool} {i : Nat} {ns : List Node} {p : Path} :
    p ∈ barePathsAll sole i ns ↔
      ∃ k n q, ns[k]? = some n ∧ q ∈ n.barePaths sole ∧ p = (i + k) :: q := by
  induction ns generalizing i with
  | nil => simp [barePathsAll]
  | cons m r ih =>
    rw [barePathsAll, List.mem_append, List.mem_map, ih]
    -- The head of the list has index `i`, and what is behind it begins at `i + 1`.
    constructor
    · rintro (⟨q, hq, rfl⟩ | ⟨k, n, q, hn, hq, rfl⟩)
      · exact ⟨0, m, q, rfl, hq, rfl⟩
      · exact ⟨k + 1, n, q, hn, hq, by rw [Nat.add_right_comm, Nat.add_assoc]⟩
    · rintro ⟨k, n, q, hn, hq, rfl⟩
      cases k with
      | zero =>
        obtain rfl : m = n := by simpa using hn
        exact Or.inl ⟨q, hq, rfl⟩
      | succ k => exact Or.inr ⟨k, n, q, by simpa using hn, hq, by rw [Nat.add_right_comm, Nat.add_assoc]⟩

mutual

/-- No path is found twice below a node. -/
theorem nodup_barePaths (sole : Bool) : (n : Node) → (n.barePaths sole).Nodup
  | .paragraph _ c => nodup_barePathsAll (c.length == 1) 0 c
  | .link a c => by
    rw [barePaths]
    split
    · exact List.nodup_singleton _
    · exact nodup_barePathsAll false 0 c
  | .text .. => List.nodup_nil
  | .generic _ c => nodup_barePathsAll false 0 c

/-- Nor below a list of nodes. -/
theorem nodup_barePathsAll (sole : Bool) (i : Nat) : (ns : List Node) → (barePathsAll sole i ns).Nodup
  | [] => List.nodup_nil
  | n :: r => by
    have hn := nodup_barePaths sole n
    have hr := nodup_barePathsAll sole (i + 1) r
    rw [barePathsAll, List.nodup_append]
    refine ⟨hn.map List.cons_injective, hr, ?_⟩
    -- The first index keeps the paths of the first node apart from all others.
    intro p hp q hq hpq
    obtain ⟨p', -, rfl⟩ := List.mem_map.mp hp
    obtain ⟨k, m, q', -, -, rfl⟩ := mem_barePathsAll.mp hq
    have := (List.cons.inj hpq).1
    omega

end

/-! ## Where eligible links stand -/

/-- The node is a bare link. -/
def IsBareLink (n : Node) : Prop := ∃ l, n.link? = some l ∧ l.isBare = true

/-- The node is a paragraph with one node inside. -/
def holdsOne : Node → Bool
  | .paragraph _ c => c.length == 1
  | _ => false

theorem nil_notMem_barePathsAll {sole : Bool} {i : Nat} {ns : List Node} : [] ∉ barePathsAll sole i ns := by
  simp [mem_barePathsAll]

/-- The first index leads to a node, and the rest of the path goes on below it. -/
theorem cons_mem_barePathsAll {sole : Bool} {ns : List Node} {k : Nat} {q : Path} :
    k :: q ∈ barePathsAll sole 0 ns ↔ ∃ n, ns[k]? = some n ∧ q ∈ n.barePaths sole := by
  rw [mem_barePathsAll]
  constructor
  · rintro ⟨k', n, q', hn, hq, heq⟩
    obtain ⟨rfl, rfl⟩ : k = k' ∧ q = q' := by simpa using heq
    exact ⟨n, hn, hq⟩
  · rintro ⟨n, hn, hq⟩
    exact ⟨k, n, q, hn, hq, by rw [Nat.zero_add]⟩

/-- A node itself is found if it is a bare link and nothing stands beside it. -/
theorem nil_mem_barePaths {sole : Bool} {n : Node} : [] ∈ n.barePaths sole ↔ sole = true ∧ n.IsBareLink := by
  cases n with
  | paragraph | generic => simp [barePaths, nil_notMem_barePathsAll, IsBareLink, link?]
  | text => simp [barePaths, IsBareLink, link?]
  | link a c =>
    rw [barePaths]
    split
    next h => simpa [IsBareLink, link?] using h
    next h => simpa [nil_notMem_barePathsAll, IsBareLink, link?] using h

/-- A bare link shows its own destination as its only text. -/
theorem isBare_iff {l : Link} :
    l.isBare = true ↔ l.rendersAsAnchor = true ∧ ∃ position, l.content = [.text position l.url] := by
  rw [Link.isBare, Bool.and_eq_true_iff]
  refine and_congr_right fun _ => ?_
  split
  next position value hcontent => simp [hcontent]
  next hcontent => simpa using fun position => hcontent position l.url

/-- The content of a bare link has nothing inside. -/
theorem barePathsAll_of_isBare {l : Link} (h : l.isBare = true) : barePathsAll false 0 l.content = [] := by
  obtain ⟨-, position, hcontent⟩ := isBare_iff.mp h
  simp [hcontent, barePathsAll, barePaths]

/-- Further down it only counts whether a paragraph has one node inside. -/
theorem cons_mem_barePaths {sole : Bool} {n : Node} {j : Nat} {q : Path} :
    j :: q ∈ n.barePaths sole ↔ j :: q ∈ barePathsAll n.holdsOne 0 n.content := by
  cases n with
  | paragraph p c => rfl
  | generic i c => rfl
  | text => simp [barePaths, barePathsAll, content, content?]
  | link a c =>
    rw [barePaths]
    split
    next h =>
      have hnone := barePathsAll_of_isBare (Bool.and_eq_true_iff.mp h).2
      simpa [holdsOne, content, content?] using hnone ▸ List.not_mem_nil
    next h => rfl

/-- A bare link stands at the path, the only node of a paragraph. -/
def IsEligibleIn (ns : List Node) (p : Path) : Prop :=
  ∃ q position n, p = q ++ [0] ∧ at? ns q = some (.paragraph position [n]) ∧ n.IsBareLink

/-- A node of the list itself has no paragraph around it. -/
theorem not_isEligibleIn_singleton {ns : List Node} {k : Nat} : ¬ IsEligibleIn ns [k] := by
  rintro ⟨q, position, n, hq, hat, -⟩
  obtain rfl : q = [] := by cases q <;> simp_all
  cases hat

/-- A link that is eligible two levels down is alone in this node, or eligible in its content. -/
theorem isEligibleIn_cons_cons {ns : List Node} {k j : Nat} {p : Path} :
    IsEligibleIn ns (k :: j :: p) ↔ ∃ n, ns[k]? = some n ∧
      ((p = [] ∧ n.holdsOne = true ∧ ∃ m, n.content[j]? = some m ∧ m.IsBareLink) ∨
        IsEligibleIn n.content (j :: p)) := by
  constructor
  · rintro ⟨q, position, m, hq, hat, hm⟩
    cases q with
    | nil => cases hq
    | cons k' q =>
      -- The paragraph is this node, or it lies further down.
      obtain rfl : k = k' := (List.cons.inj hq).1
      rw [at?_cons] at hat
      obtain ⟨n, hn, hbelow⟩ := Option.bind_eq_some_iff.mp hat
      refine ⟨n, hn, ?_⟩
      cases q with
      | nil =>
        obtain ⟨rfl, rfl⟩ : j = 0 ∧ p = [] := by simpa using (List.cons.inj hq).2
        obtain rfl : n = .paragraph position [m] := by simpa [below?] using hbelow
        exact Or.inl ⟨rfl, rfl, m, rfl, hm⟩
      | cons i q => exact Or.inr ⟨i :: q, position, m, (List.cons.inj hq).2, hbelow, hm⟩
  · rintro ⟨n, hn, ⟨rfl, hone, m, hcontent, hm⟩ | ⟨q, position, m, hq, hat, hm⟩⟩
    · cases n with
      | paragraph position c =>
        -- Alone in a paragraph: the paragraph is the node at `k`.
        obtain ⟨m', rfl⟩ := List.length_eq_one_iff.mp (by simpa [holdsOne] using hone)
        obtain ⟨rfl, rfl⟩ : j = 0 ∧ m' = m := by cases j <;> simp_all [content, content?]
        exact ⟨[k], position, m', rfl, by simp [at?, hn], hm⟩
      | link | text | generic => cases hone
    · cases q with
      | nil => cases hat
      | cons i q => exact ⟨k :: i :: q, position, m, congrArg (k :: ·) hq, by simp [at?, hn, hat], hm⟩

/-- What the recursion finds: the nodes of the list that are bare links, where the flag says that there is one node
only, and whatever is eligible further down. -/
theorem mem_barePathsAll_iff {sole : Bool} {ns : List Node} {p : Path} :
    p ∈ barePathsAll sole 0 ns ↔
      (sole = true ∧ ∃ k n, p = [k] ∧ ns[k]? = some n ∧ n.IsBareLink) ∨ IsEligibleIn ns p := by
  -- The induction is on the path, which may end in this list or in the content of one of its nodes.
  match p with
  | [] => simp [nil_notMem_barePathsAll, IsEligibleIn]
  | [k] =>
    simp only [cons_mem_barePathsAll, nil_mem_barePaths, not_isEligibleIn_singleton, or_false]
    constructor
    · rintro ⟨n, hn, hsole, hbare⟩
      exact ⟨hsole, k, n, rfl, hn, hbare⟩
    · rintro ⟨hsole, k', n, hk, hn, hbare⟩
      obtain rfl : k = k' := by simpa using hk
      exact ⟨n, hn, hsole, hbare⟩
  | k :: j :: p =>
    rw [cons_mem_barePathsAll, isEligibleIn_cons_cons]
    have hlong : ¬ ∃ k' n, k :: j :: p = [k'] ∧ ns[k']? = some n ∧ n.IsBareLink := by simp
    simp only [hlong, and_false, false_or]
    refine exists_congr fun n => and_congr_right fun _ => ?_
    -- Below a node the flag says whether this node is a paragraph with one node inside.
    rw [cons_mem_barePaths, mem_barePathsAll_iff]
    refine or_congr_left ?_
    constructor
    · rintro ⟨hone, k', m, hk, hm, hbare⟩
      obtain ⟨rfl, rfl⟩ : j = k' ∧ p = [] := by simpa using hk
      exact ⟨rfl, hone, m, hm, hbare⟩
    · rintro ⟨rfl, hone, m, hm, hbare⟩
      exact ⟨hone, j, m, rfl, hm, hbare⟩
termination_by p.length

/-! ## What a link says of its embed -/

/-- A change of a link moves no node. -/
theorem length_changeAnchor (f : Anchor → Anchor) (ns : List Node) (p : Path) :
    (changeAnchor f ns p).length = ns.length := by
  match p with
  | [] => rfl
  | [i] => rw [changeAnchor_singleton, List.length_modify]
  | i :: j :: p => rw [changeAnchor_cons_cons, List.length_modify]

/-- A text stays the text it is, and nothing else becomes one. -/
theorem changeAnchor_eq_text_iff {f : Anchor → Anchor} {ns : List Node} {p : Path} {position : Option Position}
    {value : String} : changeAnchor f ns p = [.text position value] ↔ ns = [.text position value] := by
  -- Both lists have one node, and its shell tells whether it is a text.
  have hshell := shellAt?_changeAnchor f ns [0] p
  constructor
  · intro h
    obtain ⟨n, rfl⟩ : ∃ n, ns = [n] := List.length_eq_one_iff.mp (by rw [← length_changeAnchor f ns p, h]; rfl)
    rw [h, shellAt?_singleton, shellAt?_singleton] at hshell
    cases n <;> split at hshell <;> simp_all [shell, withContent, mapAnchor]
  · rintro rfl
    obtain ⟨n, hn⟩ := List.length_eq_one_iff.mp (length_changeAnchor f [.text position value] p)
    rw [hn, shellAt?_singleton, shellAt?_singleton] at hshell
    rw [hn]
    cases n <;> split at hshell <;> simp_all [shell, withContent, mapAnchor]

/-- A change of one node that keeps its count keeps the count of all. -/
theorem countAll_modify {g : Node → Node} (hg : ∀ n, (g n).count = n.count) (ns : List Node) (k : Nat) :
    countAll (ns.modify k g) = countAll ns := by
  induction ns generalizing k with
  | nil => rw [List.modify_nil]
  | cons n r ih => cases k <;> simp [countAll, hg, ih]

/-- Changing a link leaves the number of nodes as it is. -/
theorem countAll_changeAnchor (f : Anchor → Anchor) (ns : List Node) (p : Path) :
    countAll (changeAnchor f ns p) = countAll ns := by
  match p with
  | [] => rfl
  | [i] => exact countAll_modify (fun n => by simp [count_eq]) ns i
  | i :: j :: p =>
    refine countAll_modify (fun n => ?_) ns i
    rw [count_eq, count_eq, content_withContent_changeAnchor, countAll_changeAnchor f n.content (j :: p)]

/-- The same for the paths that are found below the node. -/
theorem barePathsAll_modify {g : Node → Node} (hg : ∀ n sole, (g n).barePaths sole = n.barePaths sole)
    (sole : Bool) (i : Nat) (ns : List Node) (k : Nat) :
    barePathsAll sole i (ns.modify k g) = barePathsAll sole i ns := by
  induction ns generalizing i k with
  | nil => rw [List.modify_nil]
  | cons n r ih => cases k <;> simp [barePathsAll, hg, ih]

/-- Which links are eligible does not depend on their embeds. -/
theorem barePathsAll_changeEmbed (embed : Option Embed) (sole : Bool) (i : Nat) (ns : List Node) (p : Path) :
    barePathsAll sole i (changeAnchor (fun a => { a with embed }) ns p) = barePathsAll sole i ns := by
  match p with
  | [] => rfl
  | [k] => exact barePathsAll_modify (fun n sole => by cases n <;> rfl) sole i ns k
  | k :: j :: p =>
    refine barePathsAll_modify (fun n sole => ?_) sole i ns k
    have hdown := fun sole c => barePathsAll_changeEmbed embed sole 0 c (j :: p)
    cases n with
    | text => rfl
    | paragraph | generic =>
      simp only [withContent, content, content?, Option.getD_some, barePaths, hdown, length_changeAnchor]
    | link a c =>
      -- Whether the link is bare depends on its content, in which no text changes.
      have hbare : (⟨a, changeAnchor (fun a => { a with embed }) c (j :: p)⟩ : Link).isBare =
          (⟨a, c⟩ : Link).isBare := by
        rw [Bool.eq_iff_iff, isBare_iff, isBare_iff]
        simp only [changeAnchor_eq_text_iff]
      simp only [withContent, content, content?, Option.getD_some, barePaths, hdown, hbare]

end Node

namespace Document

/-- A link that may be embedded stands at the path: it is bare, and the only node of a paragraph. -/
def IsEligible (d : Document) (p : Path) : Prop := Node.IsEligibleIn d.nodes p

/-- The paths that the model finds are those at which a link may be embedded. -/
theorem mem_barePaths_iff {d : Document} {p : Path} : p ∈ d.barePaths ↔ d.IsEligible p := by
  rw [barePaths, Node.mem_barePathsAll_iff]
  simp [IsEligible]

/-- So a pass finds the same links after it as before. -/
theorem barePaths_changeEmbed (d : Document) (embed : Option Embed) (p : Path) :
    (d.changeAnchor p fun a => { a with embed }).barePaths = d.barePaths :=
  Node.barePathsAll_changeEmbed embed false 0 d.nodes p

theorem nodup_barePaths (d : Document) : d.barePaths.Nodup := Node.nodup_barePathsAll false 0 d.nodes

/-- At the path to a link that may be embedded stands a bare link. -/
theorem bare_of_mem_barePaths {d : Document} {p : Path} (h : p ∈ d.barePaths) :
    ∃ l, d.link? p = some l ∧ l.isBare = true := by
  obtain ⟨q, position, n, rfl, hat, l, hl, hbare⟩ := mem_barePaths_iff.mp h
  refine ⟨l, ?_, hbare⟩
  rw [link?, Node.at?_append hat]
  exact hl

end Document

end LinkEmbed
