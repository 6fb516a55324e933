import LinkEmbed.Proofs.Html.Content
import LinkEmbed.Proofs.Html.Lexing

/-!
# Elements that stay what they are

Most elements may stand anywhere in content and come out as they were put in. They are of five kinds, by what their
tags do: they have no content, or text that is taken as it is, or they end a paragraph, or they format, or there is
no rule for them. What is left out are tables, lists, headings, forms and controls, templates, drawings and formulas, and
elements that lose a line feed.

* `spec_of_kindOf?` — the name of an element of such a kind, and how its tags are written and its content is read.
* `InContent.feed_solitary` — an element without content.
* `InContent.feed_raw` — an element whose content is taken as it is, from its start tag to its end tag.
* `InContent.opens_block`, `InContent.opens_ordinary`, `InContent.opens_formatting` — elements with content: the start
  tag opens them, content is read inside, and the end tag closes them whatever has been read.
-/

namespace LinkEmbed.Html

/-- Elements without content. -/
def solitaryNames : List String :=
  ["area", "base", "br", "embed", "hr", "img", "input", "link", "meta", "param", "source", "track", "wbr"]

/-- Elements that have a rule of their own. -/
def singularNames : List String :=
  ["html", "body", "frameset", "pre", "listing", "form", "li", "dd", "dt", "plaintext", "button", "a", "nobr", "table",
    "hr", "image", "textarea", "xmp", "iframe", "noembed", "noscript", "select", "optgroup", "option", "rb", "rtc",
    "rp", "rt", "math", "svg"]

/-- Elements for which there are rules, by rule. -/
def ruledLists : List (List String) :=
  [Builder.headNames, blockNames, headingNames, formattingNames, markedNames, voidNames, bareVoidNames,
    misplacedNames, singularNames]

/-- Elements for which there are rules. -/
def ruledNames : List String := ruledLists.flatten

theorem ruled_of_mem {l : List String} (hl : l ∈ ruledLists) {tag : String} (htag : tag ∈ l) : tag ∈ ruledNames :=
  List.mem_flatten_of_mem hl htag

/-- How the tags of an element are dealt with. -/
inductive ElementKind where
  | solitary
  | raw
  | block
  | formatting
  | ordinary
deriving DecidableEq

/-- The kind of an element, if it has one of the five. -/
def kindOf? (tag : String) : Option ElementKind :=
  if tag ∈ solitaryNames then some .solitary
  else if tag ∈ Lexer.rawNames then some .raw
  else if tag ∈ blockNames then some .block
  else if tag = "a" ∨ tag ∈ formattingNames then some .formatting
  else if IsElementName tag ∧ tag ∉ ruledNames then some .ordinary
  else none

/-- What each kind says of a name. -/
theorem names_of_kindOf? {tag : String} {kind : ElementKind} (h : kindOf? tag = some kind) :
    match kind with
    | .solitary => tag ∈ solitaryNames
    | .raw => tag ∈ Lexer.rawNames
    | .block => tag ∈ blockNames
    | .formatting => tag = "a" ∨ tag ∈ formattingNames
    | .ordinary => IsElementName tag ∧ tag ∉ ruledNames := by
  unfold kindOf? at h
  split_ifs at h with hsolitary hraw hblock hformatting hordinary
  all_goals
    obtain rfl := Option.some.inj h
    assumption

/-- The lexer reads the names of such elements as they are; only those without content are written without an end
tag, and only those whose content is taken as it is are read so. -/
theorem spec_of_kindOf? {tag : String} {kind : ElementKind} (h : kindOf? tag = some kind) :
    IsElementName tag ∧ (Render.isVoidTag tag = true ↔ kind = .solitary) ∧
      (tag ∈ Lexer.rawNames ↔ kind = .raw) := by
  have hnames := names_of_kindOf? h
  have hcontent : ∀ t ∈ blockNames ++ "a" :: formattingNames,
      IsElementName t ∧ Render.isVoidTag t = false ∧ t ∉ Lexer.rawNames := by
    decide +kernel
  cases kind with
  | solitary =>
    have hall : ∀ t ∈ solitaryNames, IsElementName t ∧ Render.isVoidTag t = true ∧ t ∉ Lexer.rawNames := by
      decide +kernel
    obtain ⟨hname, hvoid, hraw⟩ := hall tag hnames
    exact ⟨hname, by simp [hvoid], by simp [hraw]⟩
  | raw =>
    have hall : ∀ t ∈ Lexer.rawNames, Render.isVoidTag t = false := by decide
    exact ⟨Lexer.isElementName_of_mem_rawNames hnames, by simp [hall tag hnames], by simp [show tag ∈ _ from hnames]⟩
  | block =>
    obtain ⟨hname, hvoid, hraw⟩ := hcontent tag (List.mem_append_left _ hnames)
    exact ⟨hname, by simp [hvoid], by simp [hraw]⟩
  | formatting =>
    obtain ⟨hname, hvoid, hraw⟩ := hcontent tag (List.mem_append_right _ (List.mem_cons.mpr hnames))
    exact ⟨hname, by simp [hvoid], by simp [hraw]⟩
  | ordinary =>
    -- An element without rules is in none of the lists, so in neither of these.
    have hruled : ∀ t ∈ Render.voidTags ++ Lexer.rawNames, t ∈ ruledNames := by decide +kernel
    have hvoid : Render.isVoidTag tag = false := by
      refine Bool.eq_false_iff.mpr fun hmem => hnames.2 (hruled tag (List.mem_append_left _ ?_))
      exact List.contains_iff_mem.mp hmem
    have hraw : tag ∉ Lexer.rawNames := fun hmem => hnames.2 (hruled tag (List.mem_append_right _ hmem))
    exact ⟨hnames.1, by simp [hvoid], by simp [hraw]⟩

namespace Builder

variable {b : Builder} {names : List String} {p : Nat}

/-- Start tags are dealt with by the rules for content. -/
theorem InContent.feed_startTag (h : b.InContent names) (tag : String) (attributes : List (String × String))
    (selfClosing : Bool) : b.feed (.startTag tag attributes selfClosing) = b.startInBody tag attributes selfClosing := by
  have hbody : b.inMode (.startTag tag attributes selfClosing) =
      (b.startInBody tag attributes selfClosing, false) := by
    rw [inMode, h.mode]
    rfl
  obtain ⟨p, hp⟩ := h.exists_top
  exact (h.at_ hp).feed_eq hbody

/-! ## Elements without content -/

theorem At.insertVoid_eq (h : b.At p) {tag : String} (htag : tag ≠ "template") (attributes : List (String × String)) :
    b.insertVoid tag attributes =
      b.regrown (b.tree.addLast p (.element (.html tag) (plainAttributes attributes)))
        ⟨b.framesetAllowed, b.returnMode⟩ := by
  rw [insertVoid, h.insertHtml_eq htag]
  rfl

/-- The start tag of an element without content inserts it and leaves it closed. A rule across the page ends a
paragraph first. -/
theorem startInBody_solitary (h : b.InContent names) {tag : String} (htag : tag ∈ solitaryNames)
    (hrule : tag = "hr" → "p" ∉ names) (attributes : List (String × String)) (selfClosing : Bool) :
    ∃ f, b.startInBody tag attributes selfClosing = { b.insertVoid tag attributes with framesetAllowed := f } := by
  have hinline : ∃ f, { b.reconstruct.insertVoid tag attributes with framesetAllowed := false } =
      { b.insertVoid tag attributes with framesetAllowed := f } := ⟨false, by rw [h.reconstruct_eq]⟩
  simp only [solitaryNames, List.mem_cons, List.not_mem_nil, or_false] at htag
  -- The names differ in whether formatting is opened again first and whether a frameset may still follow.
  rcases htag with rfl | rfl | rfl | rfl | rfl | rfl | rfl | rfl | rfl | rfl | rfl | rfl | rfl
  · exact hinline
  · exact ⟨_, rfl⟩
  · exact hinline
  · exact hinline
  · refine ⟨false, ?_⟩
    show { b.closeParagraphInScope.insertVoid "hr" attributes with framesetAllowed := false } = _
    rw [h.closeParagraphInScope_eq (hrule rfl)]
  · exact hinline
  · show ∃ f, (if "input" = "input" ∧ isHidden attributes = true then b.reconstruct.insertVoid "input" attributes
      else { b.reconstruct.insertVoid "input" attributes with framesetAllowed := false }) = _
    split
    · exact ⟨_, by rw [h.reconstruct_eq]⟩
    · exact hinline
  · exact ⟨_, rfl⟩
  · exact ⟨_, rfl⟩
  · exact ⟨_, rfl⟩
  · exact ⟨_, rfl⟩
  · exact ⟨_, rfl⟩
  · exact hinline

/-- An element without content is put behind the other children. -/
theorem InContent.feed_solitary (h : b.InContent names) (hp : b.opened.head? = some p) {tag : String}
    (htag : tag ∈ solitaryNames) (hrule : tag = "hr" → "p" ∉ names) (attributes : List (String × String))
    (selfClosing : Bool) :
    ∃ d, b.feed (.startTag tag attributes selfClosing) =
      b.regrown (b.tree.addLast p (.element (.html tag) (plainAttributes attributes))) d := by
  obtain ⟨f, hstart⟩ := startInBody_solitary h htag hrule attributes selfClosing
  have hne : tag ≠ "template" := ne_of_mem_of_not_mem htag (by decide)
  refine ⟨⟨f, b.returnMode⟩, ?_⟩
  rw [h.feed_startTag, hstart, (h.at_ hp).insertVoid_eq hne]
  rfl

/-! ## Elements whose content is taken as it is -/

/-- The state behind the start tag of an element whose content is taken as it is. -/
def openingRaw (b : Builder) (p : Nat) (tag : String) (attributes : List (String × String)) (f : Bool) : Builder :=
  { b.opening p tag attributes b.formatting f with
    returnMode := .inBody, mode := .inText, model := Lexer.rawModel tag }

/-- Its start tag opens the element and changes how text is cut. -/
theorem startInBody_raw (h : b.InContent names) (hp : b.opened.head? = some p) {tag : String}
    (htag : tag ∈ Lexer.rawNames) (hrule : tag = "xmp" → "p" ∉ names) (attributes : List (String × String))
    (selfClosing : Bool) :
    ∃ f, b.startInBody tag attributes selfClosing = b.openingRaw p tag attributes f := by
  have hinsert : ∀ f, tag ≠ "template" →
      { b with framesetAllowed := f }.insertText tag attributes (Lexer.rawModel tag) =
        b.openingRaw p tag attributes f := by
    intro f hne
    have hat : { b with framesetAllowed := f }.At p := (h.at_ hp).regrown (Tree.Grows.refl b.tree p) ⟨f, b.returnMode⟩
    rw [insertText, hat.insertHtml_eq hne]
    simp only [h.mode]
    rfl
  simp only [Lexer.rawNames, List.mem_cons, List.not_mem_nil, or_false] at htag
  -- Only `xmp` closes a paragraph before it opens; the others differ in whether a frameset may follow.
  rcases htag with rfl | rfl | rfl | rfl | rfl | rfl | rfl
  · exact ⟨_, hinsert b.framesetAllowed (by decide)⟩
  · exact ⟨_, hinsert b.framesetAllowed (by decide)⟩
  · exact ⟨_, hinsert false (by decide)⟩
  · exact ⟨_, hinsert b.framesetAllowed (by decide)⟩
  · exact ⟨_, hinsert b.framesetAllowed (by decide)⟩
  · exact ⟨_, hinsert b.framesetAllowed (by decide)⟩
  · refine ⟨false, ?_⟩
    rw [← hinsert false (by decide)]
    show { b.closeParagraphInScope.reconstruct with framesetAllowed := false }.insertText "xmp" attributes
      (.raw "xmp") = _
    rw [h.closeParagraphInScope_eq (hrule rfl), h.reconstruct_eq]
    rfl

/-- Behind the start tag comes text, which is taken as it is, and the end tag goes back to content. -/
theorem InContent.feed_raw (h : b.InContent names) (hp : b.opened.head? = some p) {tag : String}
    (htag : tag ∈ Lexer.rawNames) (hrule : tag = "xmp" → "p" ∉ names) (attributes : List (String × String))
    (selfClosing : Bool) :
    ∃ f, b.feed (.startTag tag attributes selfClosing) = b.openingRaw p tag attributes f ∧
      (b.openingRaw p tag attributes f).TakesText b.tree.size ∧
      ∀ {t d new}, Tree.Grows (b.openingRaw p tag attributes f).tree t b.tree.size new → d.returnMode = .inBody →
        ∃ d', ((b.openingRaw p tag attributes f).regrown t d).feed (.endTag tag) = b.regrown t d' := by
  obtain ⟨f, hstart⟩ := startInBody_raw h hp htag hrule attributes selfClosing
  have hne : tag ≠ "template" := ne_of_mem_of_not_mem htag (by decide)
  have hinner := h.opening hp hne attributes (fun e he => .inl he) f
  have hat : (b.openingRaw p tag attributes f).At b.tree.size := by
    have hopening := hinner.at_ rfl
    exact ⟨hopening.top, hopening.name, hopening.context, hopening.fostering, hopening.skip, hopening.inTree⟩
  refine ⟨f, by rw [h.feed_startTag, hstart], ⟨hat, .inl rfl, hinner.settled⟩, ?_⟩
  intro t d new hgrows hreturn
  have hend : ((b.openingRaw p tag attributes f).regrown t d).inMode (.endTag tag) = (b.regrown t d, false) := by
    have hback : { b.regrown t d with mode := b.mode, model := b.model } = b.regrown t d := rfl
    show ({ b.regrown t d with mode := d.returnMode, model := .markup }, false) = _
    rw [hreturn, ← hback, h.mode, h.model]
  exact ⟨d, (hat.regrown hgrows d).feed_eq hend⟩

/-! ## Elements with content -/

/-- A start tag opens an element, and its end tag closes it again, whatever has been read between them. -/
structure Opens (b : Builder) (p : Nat) (tag : String) (attributes : List (String × String)) (names : List String)
    (selfClosing : Bool) (fs : List Formatting) (f : Bool) : Prop where
  start : b.feed (.startTag tag attributes selfClosing) = b.opening p tag attributes fs f
  content : (b.opening p tag attributes fs f).InContent (tag :: names)
  close : ∀ {t d new}, Tree.Grows (b.opening p tag attributes fs f).tree t b.tree.size new →
    ((b.opening p tag attributes fs f).regrown t d).feed (.endTag tag) = b.regrown t d

/-! ## End tags -/

section Closing

variable {i : Nat} {rest : List Nat} {tag : String}

/-- Nothing is closed when the element opened last is one to stop at. -/
theorem popTo_head (hopened : b.opened = i :: rest) {q : TagName → Bool} (hq : q (b.nameOf i) = true) :
    b.popTo q = b := by
  have hkeep : b.opened.dropWhile (fun j => !q (b.nameOf j)) = b.opened := by
    rw [hopened, List.dropWhile_cons, hq]
    rfl
  rw [popTo, hkeep]

/-- No end tag is implied inside the element opened last. -/
theorem closeImplied_head (hopened : b.opened = i :: rest) (hname : b.nameOf i = .html tag) {kept : String}
    (htag : tag ∉ impliedNames ∨ tag = kept) : b.closeImplied kept = b := by
  refine popTo_head hopened ?_
  rw [hname]
  rcases htag with htag | rfl
  · simp [TagName.html, htag]
  · simp [TagName.html]

/-- The element opened last is closed by its name. -/
theorem popName_head (hopened : b.opened = i :: rest) (hname : b.nameOf i = .html tag) : b.popName tag = b.pop := by
  rw [popName, popThrough, popTo_head hopened (by rw [hname]; exact beq_self_eq_true _)]

/-- It is in scope, whatever ends scopes. -/
theorem inScope_head (hopened : b.opened = i :: rest) (hname : b.nameOf i = .html tag) (ends : TagName → Bool) :
    b.inScope ends tag = true := by
  have hfound : (b.nameOf i == .html tag) = true := by
    rw [hname]
    exact beq_self_eq_true _
  rw [inScope, scopeHolds, hopened, List.find?_cons_of_pos (by rw [hfound, Bool.true_or])]
  exact hfound

/-- It is closed by an end tag without rules. -/
theorem closeAny_head (hopened : b.opened = i :: rest) (hname : b.nameOf i = .html tag) : b.closeAny tag = b.pop := by
  have hfound : (b.nameOf i == .html tag) = true := by
    rw [hname]
    exact beq_self_eq_true _
  have hdrop : (b.opened.dropWhile (· != i)).drop 1 = b.opened.drop 1 := by
    rw [hopened, List.dropWhile_cons]
    simp
  rw [closeAny]
  rw [show b.opened.find? (fun i => b.nameOf i == .html tag || isSpecial (b.nameOf i)) = some i by
    rw [hopened, List.find?_cons_of_pos (by rw [hfound, Bool.true_or])]]
  simp only [hname, if_true, closeImplied_head hopened hname (.inr rfl), hdrop]
  rfl

/-- The end tag of an element that ends paragraphs. -/
theorem endInBody_block (hopened : b.opened = i :: rest) (hname : b.nameOf i = .html tag) (htag : tag ∈ blockNames) :
    b.endInBody tag = (b.pop, false) := by
  by_cases hp : tag = "p"
  · subst hp
    show ((if b.inScope endsButtonScope "p" then b else b.insertHtml "p" []).closeParagraph, false) = _
    rw [inScope_head hopened hname, if_pos rfl, closeParagraph, closeImplied_head hopened hname (.inr rfl),
      popName_head hopened hname]
  · have hclosing : ∀ t ∈ blockNames, t ≠ "p" → closingNames.contains t = true ∧ t ∉ impliedNames := by decide
    obtain ⟨hcloses, himplied⟩ := hclosing tag htag hp
    unfold endInBody
    dsimp only
    rw [if_pos hcloses, inScope_head hopened hname, if_pos rfl, closeImplied_head hopened hname (.inl himplied),
      popName_head hopened hname]
    rfl

/-- The end tag of an element without rules. -/
theorem endInBody_ordinary (hopened : b.opened = i :: rest) (hname : b.nameOf i = .html tag)
    (htag : tag ∉ ruledNames) : b.endInBody tag = (b.pop, false) := by
  have hnot : ∀ {l : List String}, l ∈ ruledLists → ¬ l.contains tag = true :=
    fun hl hmem => htag (ruled_of_mem hl (List.contains_iff_mem.mp hmem))
  -- Each end tag with a rule of its own has a name for which there are rules.
  have hends : ∀ t ∈ closingNames ++ ["a", "nobr", "template", "body", "html", "form", "p", "li", "dd", "dt", "br"],
      t ∈ ruledNames := by
    decide +kernel
  have hne : ∀ t ∈ ["a", "nobr", "template", "body", "html", "form", "p", "li", "dd", "dt", "br"], tag ≠ t := by
    rintro t ht rfl
    exact htag (hends tag (List.mem_append_right _ ht))
  unfold endInBody
  dsimp only
  rw [if_neg, if_neg, if_neg, if_neg]
  · split
    all_goals first
      | exact absurd rfl (hne _ (by decide))
      | rw [closeAny_head hopened hname]; rfl
  · exact hnot (l := markedNames) (by simp [ruledLists])
  · rintro (heq | heq | hmem)
    · exact hne "a" (by decide) heq
    · exact hne "nobr" (by decide) heq
    · exact hnot (l := formattingNames) (by simp [ruledLists]) hmem
  · exact hnot (l := headingNames) (by simp [ruledLists])
  · exact fun hmem => htag (hends tag (List.mem_append_left _ (List.contains_iff_mem.mp hmem)))

/-- The end tag of a formatting element: nothing inside it is open, so it is closed and forgotten. -/
theorem endInBody_formatting (hopened : b.opened = i :: rest)
    (htag : tag = "a" ∨ tag ∈ formattingNames) {a : List Attribute} {fs : List Formatting}
    (hentry : b.formatting = .element i tag a :: fs) (hfs : ∀ e ∈ fs, ∃ j n a, e = .element j n a ∧ j ∈ rest)
    (hnew : i ∉ rest) : b.endInBody tag = ({ b.pop with formatting := fs }, false) := by
  have hclosing : ∀ t ∈ "a" :: formattingNames, closingNames.contains t = false ∧ headingNames.contains t = false := by
    decide
  have hmem : tag ∈ "a" :: formattingNames := List.mem_cons.mpr htag
  obtain ⟨hcloses, hheading⟩ := hclosing tag hmem
  have hend : b.endInBody tag = (b.closeFormatting tag, false) := by
    unfold endInBody
    dsimp only
    rw [hcloses, hheading, if_neg Bool.false_ne_true, if_neg Bool.false_ne_true, if_pos]
    · rfl
    · rcases htag with heq | hmem
      · exact .inl heq
      · exact .inr (.inr (List.contains_iff_mem.mpr hmem))
  have hforget : { b with opened := rest }.forget i = { b.pop with formatting := fs } := by
    unfold forget pop
    simp only [hentry, hopened, List.drop_succ_cons, List.drop_zero]
    rw [List.filter_cons_of_neg (by simp), List.filter_eq_self.mpr]
    -- The other entries are those of elements opened before.
    intro e he
    obtain ⟨j, n, c, rfl, hj⟩ := hfs e he
    refine bne_iff_ne.mpr ?_
    rintro rfl
    exact hnew hj
  have hsplit : b.splitOnce tag = ({ b.pop with formatting := fs }, false) := by
    rw [← hforget]
    unfold splitOnce
    simp [recentFormatting, hentry, hopened]
  have hfound : (b.opened.head?.bind b.formattingOf?).isSome = true := by
    simp [hopened, formattingOf?, hentry]
  rw [hend, closeFormatting]
  simp only [hfound, Bool.true_eq_false, and_false, if_false]
  rw [splitAll, hsplit]

end Closing

/-! ## Start tags of elements with content -/

/-- The start tag of an element that ends paragraphs. -/
theorem startInBody_block (b : Builder) {tag : String} (htag : tag ∈ blockNames)
    (attributes : List (String × String)) (selfClosing : Bool) :
    b.startInBody tag attributes selfClosing = b.closeParagraphInScope.insertHtml tag attributes := by
  have hhead : ∀ t ∈ blockNames, headNames.contains t = false := by decide
  unfold startInBody
  dsimp only
  rw [hhead tag htag, if_neg Bool.false_ne_true, if_pos (List.contains_iff_mem.mpr htag)]

/-- The start tag of a formatting element, links apart. -/
theorem startInBody_formatting (b : Builder) {tag : String} (htag : tag ∈ formattingNames)
    (attributes : List (String × String)) (selfClosing : Bool) :
    b.startInBody tag attributes selfClosing = b.reconstruct.insertFormatting tag attributes := by
  have hothers : ∀ t ∈ formattingNames,
      headNames.contains t = false ∧ blockNames.contains t = false ∧ headingNames.contains t = false := by
    decide
  obtain ⟨hhead, hblock, hheading⟩ := hothers tag htag
  unfold startInBody
  dsimp only
  rw [hhead, hblock, hheading, if_neg Bool.false_ne_true, if_neg Bool.false_ne_true, if_neg Bool.false_ne_true,
    if_pos (List.contains_iff_mem.mpr htag)]

/-- The start tag of an element without rules. -/
theorem startInBody_ordinary (b : Builder) {tag : String} (htag : tag ∉ ruledNames)
    (attributes : List (String × String)) (selfClosing : Bool) :
    b.startInBody tag attributes selfClosing = b.reconstruct.insertHtml tag attributes := by
  -- The parser goes through its lists one by one, and the name is in none of them.
  have hnot : ∀ l ∈ ruledLists, ¬ l.contains tag = true :=
    fun l hl hmem => htag (ruled_of_mem hl (List.contains_iff_mem.mp hmem))
  have hne : ∀ t ∈ singularNames, tag ≠ t := by
    rintro t ht rfl
    exact hnot singularNames (by simp [ruledLists]) (List.contains_iff_mem.mpr ht)
  simp only [ruledLists, List.forall_mem_cons] at hnot
  obtain ⟨hhead, hblock, hheading, hformatting, hmarked, hvoid, hbare, hmisplaced, -⟩ := hnot
  unfold startInBody
  dsimp only
  rw [if_neg hhead, if_neg hblock, if_neg hheading, if_neg hformatting, if_neg hmarked, if_neg hvoid, if_neg hbare,
    if_neg hmisplaced]
  split
  all_goals first
    | exact absurd rfl (hne _ (by decide))
    | rfl

namespace InContent

/-- No link is open, so none has to be closed. -/
theorem closeLink_eq (h : b.InContent names) (ha : "a" ∉ names) : b.closeLink = b := by
  unfold closeLink
  dsimp only
  split
  next i n attributes hfind =>
    have hmem : Formatting.element i n attributes ∈ b.formatting :=
      (List.takeWhile_prefix _).subset (List.mem_of_find?_eq_some hfind)
    obtain ⟨j, m, c, heq, hj, -⟩ := h.formatting _ hmem
    obtain ⟨rfl, -, -⟩ := Formatting.element.inj heq
    have hlink := List.find?_some hfind
    exact absurd (beq_iff_eq.mp hlink) (h.nameOf_ne hj ha (by decide))
  · rfl

/-- A formatting element that is not inside one of its name is noted first. -/
theorem insertFormatting_eq (h : b.InContent names) (hp : b.opened.head? = some p) {tag : String}
    (htag : tag ∉ names) (hne : tag ≠ "template") (hroot : tag ≠ "html") (attributes : List (String × String)) :
    b.insertFormatting tag attributes =
      b.opening p tag attributes (.element b.tree.size tag (plainAttributes attributes) :: b.formatting)
        b.framesetAllowed := by
  -- None of the elements noted before has this name, so the limit of three alike is not met.
  have hnames : ∀ e ∈ b.recentFormatting, ∀ i n a, e = .element i n a → n ≠ tag := by
    rintro e he i n a rfl rfl
    obtain ⟨j, m, c, heq, hj, hname⟩ := h.formatting _ ((List.takeWhile_prefix _).subset he)
    obtain ⟨rfl, rfl, -⟩ := Formatting.element.inj heq
    exact h.nameOf_ne hj htag hroot hname
  have hall : b.recentFormatting ++ b.formatting.drop b.recentFormatting.length = b.formatting :=
    List.prefix_iff_eq_append.mp (List.takeWhile_prefix _)
  have hinsert : b.insert (.html tag) (plainAttributes attributes) =
      b.opening p tag attributes b.formatting b.framesetAllowed := (h.at_ hp).insertHtml_eq hne attributes
  unfold insertFormatting
  dsimp only
  rw [if_neg, hinsert, hall]
  · rfl
  · rw [List.filter_eq_nil_iff.mpr]
    · exact Nat.not_succ_le_zero 2
    · intro e he halike
      obtain ⟨i, n, a, rfl, -⟩ := h.formatting e ((List.takeWhile_prefix _).subset he)
      exact hnames _ he i n a rfl (beq_iff_eq.mp (Bool.and_eq_true_iff.mp halike).1)

/-- The element opened last has the first of the names. -/
theorem nameOf_top {tag : String} (h : b.InContent (tag :: names)) {i : Nat} {rest : List Nat}
    (hopened : b.opened = i :: rest) : b.nameOf i = .html tag := by
  have hall := h.opened
  rw [hopened] at hall
  exact (List.cons.inj hall).1

/-- An element opens as soon as its start tag opens it and its end tag, met with the element opened last, closes it.
-/
theorem opens (h : b.InContent names) (hp : b.opened.head? = some p) {tag : String} (hne : tag ≠ "template")
    {attributes : List (String × String)} {selfClosing : Bool} {fs : List Formatting} {f : Bool}
    (hfs : ∀ e ∈ fs, e ∈ b.formatting ∨ ∃ a, e = .element b.tree.size tag a)
    (hstart : b.startInBody tag attributes selfClosing = b.opening p tag attributes fs f)
    (hend : ∀ t d, ((b.opening p tag attributes fs f).regrown t d).nameOf b.tree.size = .html tag →
      ((b.opening p tag attributes fs f).regrown t d).endInBody tag = (b.regrown t d, false)) :
    Opens b p tag attributes names selfClosing fs f := by
  have hinner := h.opening hp hne attributes hfs f
  refine ⟨?_, hinner, ?_⟩
  · rw [h.feed_startTag, hstart]
  · -- Whatever was read in between, the element is the one opened last again.
    intro t d new hgrows
    have hcontent := hinner.regrown hgrows d
    refine (hcontent.at_ rfl).feed_eq ?_
    rw [inMode, hcontent.mode]
    exact hend t d (hcontent.nameOf_top rfl)

/-- An element that ends paragraphs opens where no paragraph is open. -/
theorem opens_block (h : b.InContent names) (hp : b.opened.head? = some p) {tag : String} (htag : tag ∈ blockNames)
    (hrule : "p" ∉ names) (attributes : List (String × String)) (selfClosing : Bool) :
    Opens b p tag attributes names selfClosing b.formatting b.framesetAllowed := by
  have hne : tag ≠ "template" := ne_of_mem_of_not_mem htag (by decide)
  refine h.opens hp hne (fun e he => .inl he) ?_ ?_
  · rw [startInBody_block b htag, h.closeParagraphInScope_eq hrule, (h.at_ hp).insertHtml_eq hne]
    rfl
  · intro t d hname
    exact endInBody_block rfl hname htag

/-- An element without rules opens everywhere. -/
theorem opens_ordinary (h : b.InContent names) (hp : b.opened.head? = some p) {tag : String}
    (htag : tag ∉ ruledNames) (attributes : List (String × String)) (selfClosing : Bool) :
    Opens b p tag attributes names selfClosing b.formatting b.framesetAllowed := by
  have hne : tag ≠ "template" := (ne_of_mem_of_not_mem (by decide) htag).symm
  refine h.opens hp hne (fun e he => .inl he) ?_ ?_
  · rw [startInBody_ordinary b htag, h.reconstruct_eq, (h.at_ hp).insertHtml_eq hne]
    rfl
  · intro t d hname
    exact endInBody_ordinary rfl hname htag

/-- A formatting element opens where none of its name is open. -/
theorem opens_formatting (h : b.InContent names) (hp : b.opened.head? = some p) {tag : String}
    (htag : tag = "a" ∨ tag ∈ formattingNames) (hrule : tag ∉ names) (attributes : List (String × String))
    (selfClosing : Bool) :
    Opens b p tag attributes names selfClosing
      (.element b.tree.size tag (plainAttributes attributes) :: b.formatting) b.framesetAllowed := by
  have hnames : ∀ t ∈ "a" :: formattingNames, t ≠ "template" ∧ t ≠ "html" := by decide
  obtain ⟨hne, hroot⟩ := hnames tag (List.mem_cons.mpr htag)
  refine h.opens hp hne ?_ ?_ ?_
  · intro e he
    rcases List.mem_cons.mp he with rfl | he
    · exact .inr ⟨_, rfl⟩
    · exact .inl he
  · have hstart : b.startInBody tag attributes selfClosing = b.insertFormatting tag attributes := by
      -- An open link would be closed by another one. There is none, since no name is open twice.
      rcases htag with rfl | htag
      · show b.closeLink.reconstruct.insertFormatting "a" attributes = _
        rw [h.closeLink_eq hrule, h.reconstruct_eq]
      · rw [startInBody_formatting b htag, h.reconstruct_eq]
    rw [hstart, h.insertFormatting_eq hp hrule hne hroot]
  · intro t d _
    refine endInBody_formatting rfl htag rfl h.settled ?_
    exact fun hmem => Nat.lt_irrefl _ (h.inTree _ hmem)

end InContent

end Builder

end LinkEmbed.Html
