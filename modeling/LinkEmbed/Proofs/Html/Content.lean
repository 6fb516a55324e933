import LinkEmbed.Proofs.Html.Growth

/-!
# Building content

What single tokens do where content of the body is read: characters and comments come behind the children of the
element opened last, a start tag opens an element there, and the end tag of that element closes it. Two states are
described, one where text goes to an element (`Builder.TakesText`) and one where any content does
(`Builder.InContent`).

* `At.feed_eq` — a token is dealt with in one step, by the rules of HTML.
* `TakesText.feed_text` — a text becomes one new node.
* `InContent.feed_comment` — so does a comment.
* `InContent.regrown` — the description holds as the tree grows, and `InContent.opening` — it holds inside an element
  that is opened.
-/

namespace LinkEmbed.Html

namespace Builder

/-! ## Where content goes -/

/-- New nodes go behind the children of `p`, the element opened last. -/
structure At (b : Builder) (p : Nat) : Prop where
  top : b.opened.head? = some p
  name : ∃ n, b.nameOf p = .html n ∧ n ≠ "template"
  context : b.context = some (.html "body")
  fostering : b.fostering = false
  skip : b.skipLineFeed = false
  inTree : p < b.tree.size

namespace At

variable {b : Builder} {p : Nat}

theorem currentName_eq (h : b.At p) : b.currentName = b.nameOf p := by
  rw [currentName, h.top]
  rfl

/-- No drawing or formula is open. -/
theorem vocabulary (h : b.At p) : b.adjustedName.vocabulary = .html := by
  unfold adjustedName
  split
  next hcontext =>
    obtain rfl := Option.some.inj (hcontext.symm.trans h.context)
    rfl
  · obtain ⟨n, hname, -⟩ := h.name
    rw [h.currentName_eq, hname]
    rfl

/-- The rules of HTML hold. -/
theorem feed_eq (h : b.At p) {t : Token} {b' : Builder} (hstep : b.inMode t = (b', false)) : b.feed t = b' := by
  have hforeign : b.isForeign t = false := by
    simp [isForeign, h.vocabulary]
  have hskip : { b with skipLineFeed := false } = b := by
    rw [← h.skip]
  -- No rule hands the token on to another mode, so one step is all.
  have hone : b.stepAll (2 * b.opened.length + 32) t = b' := by
    rw [stepAll, step, hforeign]
    simp [hstep]
  unfold feed
  simp only [h.skip, Bool.false_and, hskip]
  exact hone

/-- New nodes go where the state says. -/
theorem place_eq (h : b.At p) : b.place = .lastOf p := by
  obtain ⟨n, hname, hne⟩ := h.name
  have htemplate : b.nameOf p ≠ .html "template" := by
    rw [hname]
    intro heq
    exact hne (TagName.mk.inj heq).2
  rw [place, h.top, Option.getD_some, placeIn]
  simp [h.fostering, intoTemplate, htemplate]

theorem insertComment_eq (h : b.At p) (s : String) :
    b.insertComment s = { b with tree := b.tree.addLast p (.comment s) } := by
  rw [insertComment, h.place_eq]
  rfl

theorem insertChar_eq (h : b.At p) (c : Char) :
    b.insertChar c = { b with tree := b.tree.putText c (.lastOf p) } := by
  rw [insertChar, h.place_eq]

/-- An element becomes a new last child, and is the element opened last. -/
theorem insertHtml_eq (h : b.At p) {tag : String} (htag : tag ≠ "template") (attributes : List (String × String)) :
    b.insertHtml tag attributes =
      { b with
        tree := b.tree.addLast p (.element (.html tag) (plainAttributes attributes))
        opened := b.tree.size :: b.opened } := by
  have htemplate : TagName.html tag ≠ .html "template" := fun heq => htag (TagName.mk.inj heq).2
  rw [insertHtml, insert, h.place_eq]
  simp only [create, if_neg htemplate]
  rfl

end At

end Builder

/-! ## Text -/

namespace Tree

/-- The last child of a node is text. -/
def EndsInText (t : Tree) (p : Nat) : Prop :=
  ∃ i s, (t.node p).children.back? = some i ∧ (t.node i).kind = .text s

/-- A text with one more character. -/
def pushText (c : Char) : TreeNode → TreeNode
  | ⟨.text s, p, cs⟩ => ⟨.text (s.push c), p, cs⟩
  | n => n

/-- A tree that has grown by a text behind the children of a node. -/
structure GrowsByText (t t' : Tree) (p : Nat) (s : String) : Prop where
  grows : Grows t t' p [t.size]
  size : t'.size = t.size + 1
  kind : (t'.node t.size).kind = .text s

/-- A first character becomes a new text. -/
theorem putText_first {t : Tree} {p : Nat} (hp : p < t.size) (h : ¬ t.EndsInText p) (c : Char) :
    GrowsByText t (t.putText c (.lastOf p)) p (String.singleton c) := by
  have hnew : t.putText c (.lastOf p) = t.addLast p (.text (String.singleton c)) := by
    unfold putText
    cases hback : (t.node p).children.back? with
    | none => simp only [hback]; rfl
    | some i =>
      simp only [hback]
      -- The last child may be anything but a text, which would have to grow instead.
      cases hkind : (t.node i).kind with
      | text s => exact absurd ⟨i, s, hback, hkind⟩ h
      | document => rfl
      | fragment => rfl
      | element name attributes => rfl
      | comment s => rfl
  have hnode := node_addLast hp (.text (String.singleton c)) (Nat.le_refl t.size)
  rw [if_pos rfl] at hnode
  rw [hnew]
  exact ⟨grows_addLast hp _, size_addLast t p _, by rw [hnode]⟩

/-- Each further character joins the text that the first one made. -/
theorem putText_more {t t' : Tree} {p : Nat} {s : String} (hp : p < t.size) (h : GrowsByText t t' p s) (c : Char) :
    GrowsByText t (t'.putText c (.lastOf p)) p (s.push c) := by
  -- The last child is the text, which is the node that came with it.
  have hback : (t'.node p).children.back? = some t.size := by
    rw [← Array.getLast?_toList, h.grows.children]
    exact List.getLast?_concat
  have hmore : t'.putText c (.lastOf p) = t'.modify t.size (pushText c) := by
    unfold putText
    simp only [hback, h.kind]
    rfl
  have hsize : t.size < t'.size := by
    rw [h.size]
    exact Nat.lt_succ_self _
  have hsame : ∀ i < t.size, (t'.putText c (.lastOf p)).node i = t'.node i := by
    intro i hi
    rw [hmore, node_modify _ _ _ (Nat.lt_trans hi hsize), if_neg (Nat.ne_of_lt hi)]
  refine ⟨⟨?_, ?_, ?_, ?_⟩, ?_, ?_⟩
  · rw [hmore, size_modify]
    exact h.grows.size_le
  · rw [hsame p hp, h.grows.kind]
  · rw [hsame p hp, h.grows.children]
  · intro i hi hne
    rw [hsame i hi, h.grows.others i hi hne]
  · rw [hmore, size_modify, h.size]
  · have hkind := h.kind
    rw [hmore, node_modify _ _ _ hsize, if_pos rfl]
    generalize t'.node t.size = n at hkind
    obtain ⟨kind, parent, children⟩ := n
    cases hkind
    rfl

end Tree

namespace Builder

/-- Characters are put as they come: nothing has to be opened again before them. -/
structure TakesText (b : Builder) (p : Nat) : Prop where
  at_ : b.At p
  mode : b.mode = .inText ∨ b.mode = .inBody
  settled : ∀ e ∈ b.formatting, ∃ i n a, e = .element i n a ∧ i ∈ b.opened

/-- When all formatting elements are open, none has to be opened again. -/
theorem reconstruct_eq {b : Builder} (h : ∀ e ∈ b.formatting, ∃ i n a, e = .element i n a ∧ i ∈ b.opened) :
    b.reconstruct = b := by
  obtain ⟨tree, mode, returnMode, templateModes, opened, formatting, head, form, framesetAllowed, fostering, tableText,
    context, model, skipLineFeed⟩ := b
  cases formatting with
  | nil => rfl
  | cons e r =>
    obtain ⟨i, n, a, rfl, hi⟩ := h e List.mem_cons_self
    have hopen : opened.contains i = true := List.contains_iff_mem.mpr hi
    unfold reconstruct
    simp only [List.takeWhile_cons, hopen, Bool.not_true, Bool.false_eq_true, if_false, List.reverse_nil,
      List.foldl_nil, List.length_nil, List.drop_zero]

/-- A character goes to the text at the end. It may rule out frames from now on. -/
theorem TakesText.feed_char {b : Builder} {p : Nat} (h : b.TakesText p) {c : Char} (hc : c ≠ '\x00') :
    ∃ f, b.feed (.char c) = { b with tree := b.tree.putText c (.lastOf p), framesetAllowed := f } := by
  -- In text the character is put right away. In content it is put when nothing has to be opened again.
  rcases h.mode with hmode | hmode
  · have htext : b.inMode (.char c) = (b.insertChar c, false) := by
      rw [inMode, hmode]
      rfl
    exact ⟨b.framesetAllowed, by rw [h.at_.feed_eq htext, h.at_.insertChar_eq]⟩
  · have hbody : b.inMode (.char c) = (b.charInBody c, false) := by
      rw [inMode, hmode]
      rfl
    rw [h.at_.feed_eq hbody, charInBody, if_neg hc, reconstruct_eq h.settled]
    dsimp only
    split
    · exact ⟨b.framesetAllowed, h.at_.insertChar_eq c⟩
    · refine ⟨false, ?_⟩
      have hplace : { b with framesetAllowed := false }.place = .lastOf p := h.at_.place_eq
      rw [insertChar, hplace]

/-- What of a state has no say in how content is read. -/
structure Side where
  framesetAllowed : Bool
  returnMode : Mode

/-- The state with another tree. -/
def regrown (b : Builder) (t : Tree) (d : Side) : Builder :=
  { b with tree := t, framesetAllowed := d.framesetAllowed, returnMode := d.returnMode }

/-- Where new nodes go does not depend on the nodes that are there. -/
theorem At.regrown {b : Builder} {p : Nat} (h : b.At p) {t : Tree} {q : Nat} {new : List Nat}
    (hgrows : Tree.Grows b.tree t q new) (d : Side) : (b.regrown t d).At p := by
  refine ⟨h.top, ?_, h.context, h.fostering, h.skip, Nat.lt_of_lt_of_le h.inTree hgrows.size_le⟩
  obtain ⟨n, hname, hne⟩ := h.name
  refine ⟨n, ?_, hne⟩
  rw [← hname]
  simp only [nameOf, Tree.name?, Builder.regrown, hgrows.kind_eq h.inTree]

theorem TakesText.regrown {b : Builder} {p : Nat} (h : b.TakesText p) {t : Tree} {q : Nat} {new : List Nat}
    (hgrows : Tree.Grows b.tree t q new) (d : Side) : (b.regrown t d).TakesText p :=
  ⟨h.at_.regrown hgrows d, h.mode, h.settled⟩

/-- All further characters of a text join it. -/
theorem TakesText.feed_more {b : Builder} {p : Nat} (h : b.TakesText p) {t : Tree} {s : String}
    (hgrows : Tree.GrowsByText b.tree t p s) (d : Side) {cs : List Char} (hcs : ∀ c ∈ cs, c ≠ '\x00') :
    ∃ t' d', (cs.map Token.char).foldl feed (b.regrown t d) = b.regrown t' d' ∧ d'.returnMode = d.returnMode ∧
      Tree.GrowsByText b.tree t' p (s ++ String.ofList cs) := by
  induction cs generalizing t s d with
  | nil => exact ⟨t, d, rfl, rfl, by simpa using hgrows⟩
  | cons c cs ih =>
    -- Every character keeps what the next one needs, so the induction goes on from the grown tree.
    obtain ⟨f, hfeed⟩ := (h.regrown hgrows.grows d).feed_char (hcs c List.mem_cons_self)
    have hmore := Tree.putText_more h.at_.inTree hgrows c
    obtain ⟨t'', d'', hrest, hmode, hall⟩ := ih hmore ⟨f, d.returnMode⟩ fun e he => hcs e (List.mem_cons_of_mem c he)
    refine ⟨t'', d'', ?_, hmode, ?_⟩
    · rw [List.map_cons, List.foldl_cons, hfeed]
      exact hrest
    · have hs : s ++ String.ofList (c :: cs) = s.push c ++ String.ofList cs := by
        apply String.toList_inj.mp
        simp
      rw [hs]
      exact hall

/-- A text comes behind the children of a node that does not end in text. -/
theorem TakesText.feed_text {b : Builder} {p : Nat} (h : b.TakesText p) (hlast : ¬ b.tree.EndsInText p) {s : String}
    (hne : s ≠ "") (hs : ∀ c ∈ s.toList, c ≠ '\x00') :
    ∃ t d, (s.toList.map Token.char).foldl feed b = b.regrown t d ∧ d.returnMode = b.returnMode ∧
      Tree.GrowsByText b.tree t p s := by
  cases hcs : s.toList with
  | nil => exact absurd (String.toList_eq_nil_iff.mp hcs) hne
  | cons c cs =>
    rw [hcs] at hs
    -- The first character makes the text, and the others join it.
    obtain ⟨f, hfeed⟩ := h.feed_char (hs c List.mem_cons_self)
    have hfirst := Tree.putText_first h.at_.inTree hlast c
    obtain ⟨t', d', hrest, hmode, hall⟩ :=
      h.feed_more hfirst ⟨f, b.returnMode⟩ fun e he => hs e (List.mem_cons_of_mem c he)
    refine ⟨t', d', ?_, hmode, ?_⟩
    · rw [List.map_cons, List.foldl_cons, hfeed]
      exact hrest
    · have hs : s = String.singleton c ++ String.ofList cs := by
        apply String.toList_inj.mp
        simp [hcs]
      rw [hs]
      exact hall

/-! ## Content of the body -/

/-- Content of the body is read. The names are those of the elements open inside it, the latest first. -/
structure InContent (b : Builder) (names : List String) : Prop where
  mode : b.mode = .inBody
  model : b.model = .markup
  context : b.context = some (.html "body")
  fostering : b.fostering = false
  skip : b.skipLineFeed = false
  templates : b.templateModes = []
  opened : b.opened.map b.nameOf = (names ++ ["html"]).map .html
  inTree : ∀ i ∈ b.opened, i < b.tree.size
  nodup : b.opened.Nodup
  no_template : "template" ∉ names
  formatting : ∀ e ∈ b.formatting, ∃ i n a, e = .element i n a ∧ i ∈ b.opened ∧ b.nameOf i = .html n

namespace InContent

variable {b : Builder} {names : List String}

/-- Each open element has one of the names, or is the root. -/
theorem nameOf_mem (h : b.InContent names) {i : Nat} (hi : i ∈ b.opened) :
    ∃ n ∈ names ++ ["html"], b.nameOf i = .html n := by
  have hmem : b.nameOf i ∈ (names ++ ["html"]).map TagName.html := h.opened ▸ List.mem_map_of_mem hi
  obtain ⟨n, hn, heq⟩ := List.mem_map.mp hmem
  exact ⟨n, hn, heq.symm⟩

/-- No element of another name is open. -/
theorem nameOf_ne (h : b.InContent names) {i : Nat} (hi : i ∈ b.opened) {n : String} (hn : n ∉ names)
    (hroot : n ≠ "html") : b.nameOf i ≠ .html n := by
  obtain ⟨m, hm, hname⟩ := h.nameOf_mem hi
  rw [hname]
  intro heq
  obtain rfl : m = n := (TagName.mk.inj heq).2
  rcases List.mem_append.mp hm with hmem | hmem
  · exact hn hmem
  · exact hroot (List.mem_singleton.mp hmem)

/-- Some element is open: the root, if no other. -/
theorem exists_top (h : b.InContent names) : ∃ p, b.opened.head? = some p := by
  have hlength := congrArg List.length h.opened
  cases hopened : b.opened with
  | nil => simp [hopened] at hlength
  | cons p r => exact ⟨p, rfl⟩

/-- Content goes behind the children of the element opened last. -/
theorem at_ (h : b.InContent names) {p : Nat} (hp : b.opened.head? = some p) : b.At p := by
  have hmem : p ∈ b.opened := List.mem_of_head? hp
  refine ⟨hp, ?_, h.context, h.fostering, h.skip, h.inTree p hmem⟩
  obtain ⟨n, hn, hname⟩ := h.nameOf_mem hmem
  refine ⟨n, hname, ?_⟩
  rintro rfl
  rcases List.mem_append.mp hn with hin | hin
  · exact h.no_template hin
  · exact absurd (List.mem_singleton.mp hin) (by decide)

/-- All formatting elements are open. -/
theorem settled (h : b.InContent names) : ∀ e ∈ b.formatting, ∃ i n a, e = .element i n a ∧ i ∈ b.opened := by
  intro e he
  obtain ⟨i, n, a, heq, hi, -⟩ := h.formatting e he
  exact ⟨i, n, a, heq, hi⟩

theorem takesText (h : b.InContent names) {p : Nat} (hp : b.opened.head? = some p) : b.TakesText p :=
  ⟨h.at_ hp, .inr h.mode, h.settled⟩

theorem reconstruct_eq (h : b.InContent names) : b.reconstruct = b := Builder.reconstruct_eq h.settled

/-- The tree may have grown below any node. -/
theorem regrown (h : b.InContent names) {t : Tree} {q : Nat} {new : List Nat} (hgrows : Tree.Grows b.tree t q new)
    (d : Side) : (b.regrown t d).InContent names := by
  have hnames : ∀ i ∈ b.opened, (b.regrown t d).nameOf i = b.nameOf i := by
    intro i hi
    simp only [nameOf, Tree.name?, Builder.regrown, hgrows.kind_eq (h.inTree i hi)]
  refine ⟨h.mode, h.model, h.context, h.fostering, h.skip, h.templates, ?_, ?_, h.nodup, h.no_template, ?_⟩
  · rw [← h.opened]
    exact List.map_congr_left hnames
  · intro i hi
    exact Nat.lt_of_lt_of_le (h.inTree i hi) hgrows.size_le
  · intro e he
    obtain ⟨i, n, a, heq, hi, hname⟩ := h.formatting e he
    exact ⟨i, n, a, heq, hi, (hnames i hi).trans hname⟩

/-- A comment comes behind the children of the element opened last. -/
theorem feed_comment (h : b.InContent names) {p : Nat} (hp : b.opened.head? = some p) (s : String) :
    b.feed (.comment s) = b.regrown (b.tree.addLast p (.comment s)) ⟨b.framesetAllowed, b.returnMode⟩ := by
  have hbody : b.inMode (.comment s) = (b.insertComment s, false) := by
    rw [inMode, h.mode]
    rfl
  rw [(h.at_ hp).feed_eq hbody, (h.at_ hp).insertComment_eq]
  rfl

/-- No paragraph is open, so none has to be closed. -/
theorem closeParagraphInScope_eq (h : b.InContent names) (hp : "p" ∉ names) : b.closeParagraphInScope = b := by
  have hscope : b.inScope endsButtonScope "p" = false := by
    unfold inScope scopeHolds
    split
    next i hfind =>
      have hne := h.nameOf_ne (List.mem_of_find?_eq_some hfind) hp (by decide)
      exact beq_eq_false_iff_ne.mpr hne
    · rfl
  rw [closeParagraphInScope, hscope]
  rfl

end InContent

/-! ## Start tags -/

/-- The state behind the start tag of an element that is open now. -/
def opening (b : Builder) (p : Nat) (tag : String) (attributes : List (String × String)) (fs : List Formatting)
    (f : Bool) : Builder :=
  { b with
    tree := b.tree.addLast p (.element (.html tag) (plainAttributes attributes))
    opened := b.tree.size :: b.opened
    formatting := fs
    framesetAllowed := f }

/-- The new element has its name, and the others keep theirs. -/
theorem nameOf_opening {b : Builder} {p : Nat} (hp : p < b.tree.size) (tag : String)
    (attributes : List (String × String)) (fs : List Formatting) (f : Bool) :
    (b.opening p tag attributes fs f).nameOf b.tree.size = .html tag ∧
      ∀ i < b.tree.size, (b.opening p tag attributes fs f).nameOf i = b.nameOf i := by
  constructor
  · simp only [nameOf, Tree.name?, opening, Tree.node_addLast hp _ (Nat.le_refl _)]
    rfl
  · intro i hi
    simp only [nameOf, Tree.name?, opening, (Tree.grows_addLast hp _).kind_eq hi]

/-- Inside the new element content is read as around it. -/
theorem InContent.opening {b : Builder} {names : List String} (h : b.InContent names) {p : Nat}
    (hp : b.opened.head? = some p) {tag : String} (htag : tag ≠ "template") (attributes : List (String × String))
    {fs : List Formatting} (hfs : ∀ e ∈ fs, e ∈ b.formatting ∨ ∃ a, e = .element b.tree.size tag a) (f : Bool) :
    (b.opening p tag attributes fs f).InContent (tag :: names) := by
  have hin := h.inTree p (List.mem_of_head? hp)
  obtain ⟨hnew, hold⟩ := nameOf_opening hin tag attributes fs f
  refine ⟨h.mode, h.model, h.context, h.fostering, h.skip, h.templates, ?_, ?_, ?_, ?_, ?_⟩
  · -- The elements that were open keep their names; the new one has its own.
    have hsame : b.opened.map (b.opening p tag attributes fs f).nameOf = b.opened.map b.nameOf :=
      List.map_congr_left fun i hi => hold i (h.inTree i hi)
    show List.map _ (b.tree.size :: b.opened) = _
    rw [List.map_cons, hnew, hsame, h.opened]
    rfl
  · intro i hi
    show i < (b.tree.addLast p _).size
    rw [Tree.size_addLast]
    rcases List.mem_cons.mp hi with rfl | hi
    · exact Nat.lt_succ_self _
    · exact Nat.lt_succ_of_lt (h.inTree i hi)
  · -- The new element is a node the tree did not have.
    refine List.nodup_cons.mpr ⟨fun hmem => ?_, h.nodup⟩
    exact Nat.lt_irrefl _ (h.inTree _ hmem)
  · intro hmem
    rcases List.mem_cons.mp hmem with heq | hmem
    · exact htag heq.symm
    · exact h.no_template hmem
  · -- Formatting elements are those that were open, and possibly the new one.
    intro e he
    rcases hfs e he with hmem | ⟨a, rfl⟩
    · obtain ⟨i, n, a, heq, hi, hname⟩ := h.formatting e hmem
      exact ⟨i, n, a, heq, List.mem_cons_of_mem _ hi, (hold i (h.inTree i hi)).trans hname⟩
    · exact ⟨b.tree.size, tag, a, rfl, List.mem_cons_self, hnew⟩

end Builder

end LinkEmbed.Html
