import LinkEmbed.Proofs.Html.Fitting

/-!
# Written markup read as a fragment

Markup that is written and read as a fragment comes back node for node, with one exception: inside scripts, styles,
frames and the like the reader takes text as it is, while the writer escapes it there as everywhere, so that text
comes back escaped.

* `InContent.puts`, `InContent.putsAll` — by recursion on the markup: reading what is written for it puts nodes that
  stand for it behind the children of the element opened last, whatever is written next.
* `readFragment_renderAll` — what comes back of a whole fragment.
* `readFragment_renderAll_eq_iff` — when that is the fragment itself.
-/

namespace LinkEmbed.Html

/-! ## Reading on -/

namespace Builder

/-- Reading a piece of text takes a state to another, whatever comes behind it. -/
def Runs (b : Builder) (cs : List Char) (b' : Builder) : Prop :=
  ∃ k ≤ cs.length, ∀ n rest, b.readAll (n + k) (cs ++ rest) = b'.readAll n rest

theorem Runs.refl (b : Builder) : b.Runs [] b := ⟨0, Nat.le_refl 0, fun _ _ => rfl⟩

/-- The same in front of a certain text. -/
def RunsBefore (b : Builder) (cs ds : List Char) (b' : Builder) : Prop :=
  ∃ k ≤ cs.length, ∀ n rest, b.readAll (n + k) (cs ++ (ds ++ rest)) = b'.readAll n (ds ++ rest)

/-- What takes a state to another does so in front of any text. -/
theorem Runs.before {b b' : Builder} {cs : List Char} (h : b.Runs cs b') (ds : List Char) : b.RunsBefore cs ds b' := by
  obtain ⟨k, hk, hread⟩ := h
  exact ⟨k, hk, fun n rest => hread n (ds ++ rest)⟩

/-- The text in front of which a piece was read may be read next. -/
theorem RunsBefore.trans {b b' b'' : Builder} {cs ds : List Char} (h : b.RunsBefore cs ds b') (h' : b'.Runs ds b'') :
    b.Runs (cs ++ ds) b'' := by
  obtain ⟨k, hk, hread⟩ := h
  obtain ⟨k', hk', hread'⟩ := h'
  refine ⟨k' + k, ?_, ?_⟩
  · rw [List.length_append]
    omega
  · intro n rest
    rw [List.append_assoc, ← Nat.add_assoc, hread, hread']

/-- Pieces of text are read one after another. -/
theorem Runs.trans {b b' b'' : Builder} {cs ds : List Char} (h : b.Runs cs b') (h' : b'.Runs ds b'') :
    b.Runs (cs ++ ds) b'' := (h.before ds).trans h'

/-- Reading goes on behind the tokens that are cut off first. -/
theorem readAll_next {b : Builder} {cs rest : List Char} {tokens : List Token} (hne : cs ≠ [])
    (h : ∀ sections, Lexer.next b.model sections cs = (tokens, rest)) (n : Nat) :
    b.readAll (n + 1) cs = (tokens.foldl feed b).readAll n rest := by
  rw [readAll]
  · rw [h]
  · exact hne

/-- One or more tokens that are cut off at once. -/
theorem runs_of_next {b : Builder} {cs : List Char} (tokens : List Token) (hne : cs ≠ [])
    (h : ∀ sections rest, Lexer.next b.model sections (cs ++ rest) = (tokens, rest)) :
    b.Runs cs (tokens.foldl feed b) := by
  refine ⟨1, List.length_pos_iff.mpr hne, ?_⟩
  intro n rest
  exact readAll_next (by simp [hne]) (fun sections => h sections rest) n

/-- Characters that are cut off one by one. -/
theorem runs_chars {b : Builder} {w : Char → List Char} {cs : List Char} (hw : ∀ c ∈ cs, w c ≠ [])
    (hmodel : ∀ ds, ds <+: cs → ((ds.map Token.char).foldl feed b).model = b.model)
    (hnext : ∀ c ∈ cs, ∀ sections rest, Lexer.next b.model sections (w c ++ rest) = ([.char c], rest)) :
    b.Runs (cs.flatMap w) ((cs.map Token.char).foldl feed b) := by
  induction cs generalizing b with
  | nil => exact Runs.refl b
  | cons c cs ih =>
    -- The text is cut the same way after each character, so the next one can be read.
    have hsame : (b.feed (.char c)).model = b.model := hmodel [c] ⟨cs, rfl⟩
    have hone : b.Runs (w c) (b.feed (.char c)) :=
      runs_of_next [.char c] (hw c List.mem_cons_self) (hnext c List.mem_cons_self)
    have hrest : (b.feed (.char c)).Runs (cs.flatMap w) ((cs.map Token.char).foldl feed (b.feed (.char c))) := by
      refine ih (fun d hd => hw d (List.mem_cons_of_mem c hd)) ?_ ?_
      · intro ds hds
        rw [hsame]
        exact hmodel (c :: ds) ((List.prefix_cons_inj c).mpr hds)
      · rw [hsame]
        exact fun d hd => hnext d (List.mem_cons_of_mem c hd)
    exact hone.trans hrest

/-- Reading text leaves the way in which text is cut as it is. -/
theorem TakesText.model_foldl {b : Builder} {p : Nat} (h : b.TakesText p) (hlast : ¬ b.tree.EndsInText p)
    {ds : List Char} (hds : ∀ c ∈ ds, c ≠ '\x00') : ((ds.map Token.char).foldl feed b).model = b.model := by
  cases ds with
  | nil => rfl
  | cons c ds =>
    have hne : String.ofList (c :: ds) ≠ "" := by
      intro heq
      have hnil := congrArg String.toList heq
      simp at hnil
    obtain ⟨t, d, hfold, -⟩ := h.feed_text hlast hne (by simpa using hds)
    rw [String.toList_ofList] at hfold
    rw [hfold]
    rfl

/-- A text in content. -/
theorem InContent.runs_text {b : Builder} {names : List String} {p : Nat} (h : b.InContent names)
    (hp : b.opened.head? = some p) (hlast : ¬ b.tree.EndsInText p) {s : String} (hne : s ≠ "") (hs : IsClean s) :
    ∃ t d, b.Runs (Render.escapeText s) (b.regrown t d) ∧ Tree.GrowsByText b.tree t p s := by
  have hnull : ∀ c ∈ s.toList, c ≠ '\x00' := fun c hc => (hs c hc).1
  obtain ⟨t, d, hfold, -, hgrows⟩ := (h.takesText hp).feed_text hlast hne hnull
  refine ⟨t, d, ?_, hgrows⟩
  rw [← hfold]
  refine runs_chars (fun c _ => Render.escapeTextChar_ne_nil c) ?_ ?_
  · intro ds hds
    exact (h.takesText hp).model_foldl hlast fun c hc => hnull c (hds.subset hc)
  · intro c _ sections rest
    rw [h.model]
    exact Lexer.next_escapeTextChar sections c rest

/-! ## Tags -/

/-- A start tag that is written takes the state where its token does. -/
theorem runs_startTag {b : Builder} (hmodel : b.model = .markup) {tag : String} (htag : IsElementName tag)
    {p : Properties} (hp : AttributesFit p) :
    b.Runs (Render.openTag tag p ++ ['>']) (b.feed (.startTag tag p.written false)) := by
  refine runs_of_next [.startTag tag p.written false] (by simp [Render.openTag]) ?_
  intro sections rest
  have hnext := Lexer.next_startTag sections htag hp.areWritten (Lexer.closes_bracket rest)
  rw [hmodel, Render.openTag, hp.attributes_eq]
  simpa using hnext

/-- So does the only tag of an element without content. -/
theorem runs_voidTag {b : Builder} (hmodel : b.model = .markup) {tag : String} (htag : IsElementName tag)
    {p : Properties} (hp : AttributesFit p) (style : RenderStyle) :
    b.Runs (Render.openTag tag p ++ Render.closeVoid style)
      (b.feed (.startTag tag p.written style.selfClosing)) := by
  refine runs_of_next [.startTag tag p.written style.selfClosing] (by simp [Render.openTag]) ?_
  intro sections rest
  have hnext := Lexer.next_startTag sections htag hp.areWritten (Lexer.closes_closeVoid style rest)
  rw [hmodel, Render.openTag, hp.attributes_eq]
  simpa using hnext

/-- So does an end tag. -/
theorem runs_closeTag {b : Builder} (hmodel : b.model = .markup) {tag : String} (htag : IsElementName tag) :
    b.Runs (Render.closeTag tag) (b.feed (.endTag tag)) := by
  refine runs_of_next [.endTag tag] (by simp [Render.closeTag]) ?_
  intro sections rest
  rw [hmodel]
  exact Lexer.next_closeTag sections htag rest

/-! ## Text that is taken as it is -/

/-- Characters in front of the end tag of an element whose content is taken as it is. -/
theorem TakesText.runsBefore_chars {b : Builder} {p : Nat} (h : b.TakesText p) (hlast : ¬ b.tree.EndsInText p)
    {tag : String} (htag : tag ∈ Lexer.rawNames) (hmodel : b.model = Lexer.rawModel tag) {cs : List Char}
    (hne : cs ≠ []) (hcs : ∀ c ∈ cs, c ≠ '<' ∧ c ≠ '\x00') :
    b.RunsBefore cs (Render.closeTag tag) ((cs.map Token.char).foldl feed b) := by
  -- A script is cut off at once, up to its end tag, and other such text character by character.
  by_cases hscript : tag = "script"
  · subst hscript
    refine ⟨1, List.length_pos_iff.mpr hne, ?_⟩
    intro n rest
    refine readAll_next (by simp [hne]) (fun sections => ?_) n
    rw [hmodel]
    exact Lexer.next_script sections hne hcs rest
  · have hraw : Lexer.rawModel tag = .raw tag := if_neg hscript
    have hruns : b.Runs (cs.flatMap fun c => [c]) ((cs.map Token.char).foldl feed b) := by
      refine runs_chars (fun c _ => List.cons_ne_nil c []) ?_ ?_
      · intro ds hds
        exact h.model_foldl hlast fun c hc => (hcs c (hds.subset hc)).2
      · intro c hc sections rest
        rw [hmodel, hraw]
        exact Lexer.next_rawChar sections (hcs c hc).1 (hcs c hc).2 rest
    rw [List.flatMap_singleton'] at hruns
    exact hruns.before _

/-- A text there, which is read with the references that were written for it. -/
theorem TakesText.runsBefore_escapeText {b : Builder} {p : Nat} (h : b.TakesText p) (hlast : ¬ b.tree.EndsInText p)
    {tag : String} (htag : tag ∈ Lexer.rawNames) (hmodel : b.model = Lexer.rawModel tag) {s : String} (hne : s ≠ "")
    (hs : IsClean s) :
    ∃ t d, b.RunsBefore (Render.escapeText s) (Render.closeTag tag) (b.regrown t d) ∧ d.returnMode = b.returnMode ∧
      Tree.GrowsByText b.tree t p (String.ofList (Render.escapeText s)) := by
  have hwritten : Render.escapeText s ≠ [] := by
    intro hnil
    refine hne (String.toList_eq_nil_iff.mp (List.eq_nil_iff_forall_not_mem.mpr fun c hc => ?_))
    exact Render.escapeTextChar_ne_nil c (List.flatMap_eq_nil_iff.mp hnil c hc)
  have hchars : ∀ c ∈ Render.escapeText s, c ≠ '<' ∧ c ≠ '\x00' :=
    fun c hc => ⟨(Render.mem_escapeText hc).1, (mem_escapeText_of_clean hs hc).1⟩
  have hruns := h.runsBefore_chars hlast htag hmodel hwritten hchars
  obtain ⟨t, d, hfold, hreturn, hgrows⟩ := h.feed_text hlast (s := String.ofList (Render.escapeText s))
    (by simpa using hwritten) (by simpa using fun c hc => (hchars c hc).2)
  rw [String.toList_ofList] at hfold
  rw [hfold] at hruns
  exact ⟨t, d, hruns, hreturn, hgrows⟩

/-- A new node has no children yet, so it does not end in text. -/
theorem not_endsInText_addLast {t : Tree} {p : Nat} (hp : p < t.size) (kind : NodeKind) :
    ¬ (t.addLast p kind).EndsInText t.size := by
  rintro ⟨i, s, hback, -⟩
  rw [Tree.node_addLast hp kind (Nat.le_refl _), if_pos rfl] at hback
  cases hback

/-! ## Single nodes -/

/-- Reading a text puts a node behind the other children of `p` and nothing else anywhere. The node and those below
it stand for the markup. -/
def Puts (b : Builder) (p : Nat) (cs : List Char) (m : Markup) : Prop :=
  ∃ t d, b.Runs cs (b.regrown t d) ∧ Tree.Grows b.tree t p [b.tree.size] ∧ t.Holds m b.tree.size b.tree.size

/-- A new element stands for itself with what its children stand for. -/
theorem holds_element {t t' : Tree} {q : Nat} (hq : q < t.size) {tag : String} {p : Properties} (hp : AttributesFit p)
    {new : List Nat} {ms : List Markup}
    (hgrows : Tree.Grows (t.addLast q (.element (.html tag) (plainAttributes p.written))) t' t.size new)
    (hnew : t'.AllHold ms (t.size + 1) new) : t'.Holds (.element tag p ms) t.size t.size := by
  have hnode := Tree.node_addLast hq (.element (.html tag) (plainAttributes p.written)) (Nat.le_refl t.size)
  rw [if_pos rfl] at hnode
  have hsize : t.size + 1 ≤ t'.size := by
    rw [← Tree.size_addLast t q (.element (.html tag) (plainAttributes p.written))]
    exact hgrows.size_le
  have hchildren : (t'.node t.size).children.toList = new := by
    rw [hgrows.children, hnode]
    rfl
  refine ⟨Nat.le_refl _, hsize, ⟨plainAttributes p.written, ?_, hp.propertiesOf_eq⟩, ?_⟩
  · rw [hgrows.kind, hnode]
  · rw [hchildren]
    exact hnew

/-- A text in content. -/
theorem InContent.puts_text {b : Builder} {names : List String} {q : Nat} (h : b.InContent names)
    (hq : b.opened.head? = some q) (hlast : ¬ b.tree.EndsInText q) {s : String} (hne : s ≠ "") (hs : IsClean s) :
    b.Puts q (Render.escapeText s) (.text s) := by
  obtain ⟨t, d, hruns, hgrows⟩ := h.runs_text hq hlast hne hs
  refine ⟨t, d, hruns, hgrows.grows, Nat.le_refl _, ?_, hgrows.kind⟩
  rw [hgrows.size]
  exact Nat.lt_succ_self _

/-- A comment in content. -/
theorem InContent.puts_comment {b : Builder} {names : List String} {q : Nat} (h : b.InContent names)
    (hq : b.opened.head? = some q) {s : String} (hs : Lexer.IsComment s) :
    b.Puts q ("<!--".toList ++ s.toList ++ "-->".toList) (.comment s) := by
  have hin := h.inTree q (List.mem_of_head? hq)
  have hruns : b.Runs ("<!--".toList ++ s.toList ++ "-->".toList) (b.feed (.comment s)) := by
    refine runs_of_next [.comment s] (by simp) ?_
    intro sections rest
    rw [h.model]
    exact Lexer.next_comment sections hs rest
  rw [h.feed_comment hq] at hruns
  refine ⟨_, _, hruns, Tree.grows_addLast hin _, Nat.le_refl _, ?_, ?_⟩
  · rw [Tree.size_addLast]
    exact Nat.lt_succ_self _
  · rw [Tree.node_addLast hin _ (Nat.le_refl _), if_pos rfl]

/-- An element without content. -/
theorem InContent.puts_solitary {b : Builder} {names : List String} {q : Nat} (h : b.InContent names)
    (hq : b.opened.head? = some q) {tag : String} (htag : tag ∈ solitaryNames) (hname : IsElementName tag)
    (hrule : tag = "hr" → "p" ∉ names) {p : Properties} (hp : AttributesFit p) (style : RenderStyle) :
    b.Puts q (Render.openTag tag p ++ Render.closeVoid style) (.element tag p []) := by
  have hin := h.inTree q (List.mem_of_head? hq)
  have hruns := runs_voidTag h.model hname hp style
  obtain ⟨d, hfeed⟩ := h.feed_solitary hq htag hrule p.written style.selfClosing
  rw [hfeed] at hruns
  have hgrows := Tree.Grows.refl (b.tree.addLast q (.element (.html tag) (plainAttributes p.written))) b.tree.size
  exact ⟨_, d, hruns, hgrows.below hin, holds_element hin hp hgrows rfl⟩

/-- An element whose content is taken as it is. -/
theorem InContent.puts_raw {b : Builder} {names : List String} {q : Nat} (h : b.InContent names)
    (hq : b.opened.head? = some q) {tag : String} (htag : tag ∈ Lexer.rawNames) (hrule : tag = "xmp" → "p" ∉ names)
    {p : Properties} (hp : AttributesFit p) {children : List Markup} (hchildren : IsRawContent children)
    (style : RenderStyle) :
    b.Puts q (Render.openTag tag p ++ '>' :: Render.markupAll style children ++ Render.closeTag tag)
      (.element tag p (children.map escaped)) := by
  have hname := Lexer.isElementName_of_mem_rawNames htag
  have hin := h.inTree q (List.mem_of_head? hq)
  obtain ⟨f, hstart, htext, hclose⟩ := h.feed_raw hq htag hrule p.written false
  have hopen : b.Runs (Render.openTag tag p ++ ['>']) (b.openingRaw q tag p.written f) := by
    have hruns := runs_startTag h.model hname hp
    rwa [hstart] at hruns
  -- Whatever stands inside, the end tag leads back to where the element was opened.
  have hend : ∀ {t d new}, Tree.Grows (b.openingRaw q tag p.written f).tree t b.tree.size new →
      d.returnMode = .inBody →
      ∃ d', ((b.openingRaw q tag p.written f).regrown t d).Runs (Render.closeTag tag) (b.regrown t d') := by
    intro t d new hgrows hreturn
    obtain ⟨d', hfeed⟩ := hclose hgrows hreturn
    refine ⟨d', ?_⟩
    rw [← hfeed]
    refine runs_of_next [.endTag tag] (by simp [Render.closeTag]) ?_
    exact fun sections rest => Lexer.next_rawEnd sections htag rest
  match children, hchildren with
  | [], _ =>
    -- Nothing inside: the end tag follows the start tag.
    have hgrows := Tree.Grows.refl (b.openingRaw q tag p.written f).tree b.tree.size
    obtain ⟨d, hruns⟩ := hend hgrows (d := ⟨f, .inBody⟩) rfl
    refine ⟨_, d, ?_, hgrows.below hin, holds_element hin hp hgrows rfl⟩
    have hall := hopen.trans hruns
    simpa [Render.markupAll] using hall
  | [.text s], ⟨hne, hs⟩ =>
    -- One text inside, which is read as it was escaped.
    have hlast : ¬ (b.openingRaw q tag p.written f).tree.EndsInText b.tree.size := not_endsInText_addLast hin _
    obtain ⟨t, d, hcontent, hreturn, hgrows⟩ := htext.runsBefore_escapeText hlast htag rfl hne hs
    obtain ⟨d', hruns⟩ := hend hgrows.grows hreturn
    refine ⟨t, d', ?_, hgrows.grows.below hin, holds_element hin hp hgrows.grows ?_⟩
    · have hall := hopen.trans (hcontent.trans hruns)
      simpa [Render.markupAll, Render.markup] using hall
    · refine ⟨_, [], rfl, ⟨?_, ?_, hgrows.kind⟩, rfl⟩
      · exact Nat.le_of_eq (Tree.size_addLast _ _ _).symm
      · rw [hgrows.size]
        exact Nat.lt_succ_self _

/-! ## Several nodes -/

/-- Reading a text puts nodes behind the other children of `p` and nothing else anywhere. -/
def PutsAll (b : Builder) (p : Nat) (cs : List Char) (ms : List Markup) : Prop :=
  ∃ t d is, b.Runs cs (b.regrown t d) ∧ Tree.Grows b.tree t p is ∧ t.AllHold ms b.tree.size is

theorem PutsAll.nil (b : Builder) (p : Nat) : b.PutsAll p [] [] :=
  ⟨b.tree, ⟨b.framesetAllowed, b.returnMode⟩, [], Runs.refl b, Tree.Grows.refl b.tree p, rfl⟩

/-- One node more in front. It stays as it is while the others are read, as they come behind it. -/
theorem PutsAll.cons {b : Builder} {p : Nat} (hp : p < b.tree.size) {t : Tree} {d : Side} {cs ds : List Char}
    {m : Markup} {ms : List Markup} (hruns : b.Runs cs (b.regrown t d)) (hgrows : Tree.Grows b.tree t p [b.tree.size])
    (hm : t.Holds m b.tree.size b.tree.size) (hms : (b.regrown t d).PutsAll p ds ms) :
    b.PutsAll p (cs ++ ds) (m :: ms) := by
  obtain ⟨t', d', is, hruns', hgrows', hall⟩ := hms
  have hsame : ∀ j, b.tree.size ≤ j → j < t.size → t'.node j = t.node j := by
    intro j hj hsize
    exact hgrows'.others j hsize (Nat.ne_of_gt (Nat.lt_of_lt_of_le hp hj))
  refine ⟨t', d', b.tree.size :: is, hruns.trans hruns', hgrows.trans hgrows', b.tree.size, is, rfl, ?_, ?_⟩
  · exact hm.of_same hgrows'.size_le (Nat.le_refl _) hsame
  · exact hall.of_same (Nat.le_refl _) hgrows.size_le fun _ _ _ => rfl

/-- Behind a node that is no text, the children do not end in text. -/
theorem not_endsInText_of_holds {t t' : Tree} {p i low : Nat} {m : Markup} (hgrows : Tree.Grows t t' p [i])
    (hm : t'.Holds m low i) (hnot : isText m = false) : ¬ t'.EndsInText p := by
  rintro ⟨j, s, hback, hkind⟩
  obtain rfl : i = j := by
    rw [← Array.getLast?_toList, hgrows.children, List.getLast?_concat] at hback
    exact Option.some.inj hback
  match m, hm with
  | .element tag p children, ⟨_, _, ⟨attributes, helement, _⟩, _⟩ =>
    rw [helement] at hkind
    cases hkind
  | .comment s, ⟨_, _, hcomment⟩ =>
    rw [hcomment] at hkind
    cases hkind

/-- An element with content, if reading its content puts the right nodes into it. -/
theorem Opens.puts {b : Builder} {names : List String} {q : Nat} {tag : String} {p : Properties}
    {fs : List Formatting} {f : Bool} (h : Opens b q tag p.written names false fs f) (hin : q < b.tree.size)
    (hmodel : b.model = .markup) (hname : IsElementName tag) (hp : AttributesFit p) {cs : List Char} {ms : List Markup}
    (hcontent : (b.opening q tag p.written fs f).PutsAll b.tree.size cs ms) :
    b.Puts q (Render.openTag tag p ++ '>' :: cs ++ Render.closeTag tag) (.element tag p ms) := by
  obtain ⟨t, d, is, hinner, hgrows, hall⟩ := hcontent
  have hopen : b.Runs (Render.openTag tag p ++ ['>']) (b.opening q tag p.written fs f) := by
    have hruns := runs_startTag hmodel hname hp
    rwa [h.start] at hruns
  have hclose : ((b.opening q tag p.written fs f).regrown t d).Runs (Render.closeTag tag) (b.regrown t d) := by
    have hruns := runs_closeTag (h.content.regrown hgrows d).model hname
    rwa [h.close hgrows] at hruns
  have hsize : (b.opening q tag p.written fs f).tree.size = b.tree.size + 1 := Tree.size_addLast _ _ _
  rw [hsize] at hall
  refine ⟨t, d, ?_, hgrows.below hin, holds_element hin hp hgrows hall⟩
  have hruns := (hopen.trans hinner).trans hclose
  simpa using hruns

theorem isText_returned (m : Markup) : isText (returned m) = isText m := by
  cases m <;> rfl

mutual

/-- Markup that fits is put where it is read. -/
theorem InContent.puts {b : Builder} {names : List String} {q : Nat} (h : b.InContent names)
    (hq : b.opened.head? = some q) (style : RenderStyle) {m : Markup} (hm : Fits names m)
    (hlast : isText m = true → ¬ b.tree.EndsInText q) : b.Puts q (Render.markup style m) (returned m) := by
  match m, hm with
  | .text s, ⟨hne, hs⟩ => exact h.puts_text hq (hlast rfl) hne hs
  | .comment s, hs => exact h.puts_comment hq hs
  | .element tag p children, ⟨hp, hrule, hchildren⟩ =>
    have hin := h.inTree q (List.mem_of_head? hq)
    cases hkind : kindOf? tag with
    | none =>
      rw [hkind] at hchildren
      exact hchildren.elim
    | some kind =>
      rw [hkind] at hchildren
      have hnames := names_of_kindOf? hkind
      obtain ⟨hname, hvoid, hraw⟩ := spec_of_kindOf? hkind
      -- Elements with content differ in how they are opened only.
      have hfull : ∀ fs f, Opens b q tag p.written names false fs f → kind ≠ .solitary → kind ≠ .raw →
          AllFit (tag :: names) children →
          b.Puts q (Render.markup style (.element tag p children)) (returned (.element tag p children)) := by
        intro fs f hopens hnotSolitary hnotRaw hall
        rw [Render.markup, if_neg (mt hvoid.mp hnotSolitary), returned, if_neg (mt hraw.mp hnotRaw)]
        refine hopens.puts hin h.model hname hp (hopens.content.putsAll rfl style hall ?_)
        exact fun _ _ _ => not_endsInText_addLast hin _
      cases kind with
      | solitary =>
        obtain rfl : children = [] := hchildren
        rw [Render.markup, if_pos (hvoid.mpr rfl)]
        have hreturned : returned (.element tag p []) = .element tag p [] := by
          rw [returned, if_neg (mt hraw.mp nofun)]
          rfl
        rw [hreturned]
        exact h.puts_solitary hq hnames hname (fun hr => hrule (.inr (.inl hr))) hp style
      | raw =>
        rw [Render.markup, if_neg (mt hvoid.mp nofun), returned, if_pos (hraw.mpr rfl)]
        exact h.puts_raw hq hnames (fun hxmp => hrule (.inr (.inr hxmp))) hp hchildren style
      | block =>
        exact hfull _ _ (h.opens_block hq hnames (hrule (.inl hnames)) p.written false) nofun nofun hchildren
      | formatting =>
        exact hfull _ _ (h.opens_formatting hq hnames hchildren.1 p.written false) nofun nofun hchildren.2
      | ordinary =>
        exact hfull _ _ (h.opens_ordinary hq hnames.2 p.written false) nofun nofun hchildren

/-- The same for nodes, if the first does not join a text in front of it. -/
theorem InContent.putsAll {b : Builder} {names : List String} {q : Nat} (h : b.InContent names)
    (hq : b.opened.head? = some q) (style : RenderStyle) {ms : List Markup} (hms : AllFit names ms)
    (hlast : ∀ m ∈ ms.head?, isText m = true → ¬ b.tree.EndsInText q) :
    b.PutsAll q (Render.markupAll style ms) (returnedAll ms) := by
  match ms, hms with
  | [], _ => exact PutsAll.nil b q
  | m :: ms, ⟨hm, hapart, hrest⟩ =>
    have hin := h.inTree q (List.mem_of_head? hq)
    obtain ⟨t, d, hruns, hgrows, hholds⟩ := h.puts hq style hm (hlast m rfl)
    refine PutsAll.cons hin hruns hgrows hholds ((h.regrown hgrows d).putsAll hq style hrest ?_)
    intro n hn htext
    refine not_endsInText_of_holds hgrows hholds ?_
    rw [isText_returned]
    -- Of two neighbours only one is text.
    by_contra hne
    have hnot := hapart (Bool.not_eq_false _ ▸ hne) n hn
    rw [htext] at hnot
    cases hnot

end

/-! ## The whole text -/

/-- The state in which content of a body is read first. -/
theorem inContent_first :
    { Builder.empty.createRoot [] with mode := .inBody, context := some (.html "body") }.InContent [] := by
  refine ⟨rfl, rfl, rfl, rfl, rfl, rfl, rfl, ?_, List.nodup_cons.mpr ⟨List.not_mem_nil, List.nodup_nil⟩, nofun, nofun⟩
  intro i hi
  rw [List.mem_singleton.mp hi]
  decide

/-- At the end of the text nothing happens any more. -/
theorem InContent.readAll_nil {b : Builder} {names : List String} (h : b.InContent names) (n : Nat) :
    b.readAll n [] = b := by
  have hbody : b.inMode .endOfText = (b, false) := by
    rw [inMode, h.mode]
    show (if b.templateModes.isEmpty then b.done else b.endInTemplate) = _
    rw [h.templates]
    rfl
  obtain ⟨p, hp⟩ := h.exists_top
  cases n <;> exact (h.at_ hp).feed_eq hbody

end Builder

/-- Without carriage returns lines end as they are. -/
theorem normalizeLines_of_notMem {cs : List Char} (h : '\r' ∉ cs) : Lexer.normalizeLines cs = cs := by
  induction cs with
  | nil => rfl
  | cons c cs ih =>
    obtain ⟨hc, hcs⟩ := not_or.mp (mt List.mem_cons.mpr h)
    rw [Lexer.normalizeLines, ih hcs]
    · rintro r rfl
      exact (hc rfl).elim
    · rintro rfl
      exact (hc rfl).elim

/-- Markup that fits comes back as it was, but for text that is taken as it is. -/
theorem readFragment_renderAll (style : RenderStyle) {ms : List Markup} (h : AllFit [] ms)
    (hmark : (Render.markupAll style ms).head? ≠ some '\uFEFF') :
    readFragment (Markup.renderAll style ms) = returnedAll ms := by
  have hinput : inputOf (Markup.renderAll style ms) = Render.markupAll style ms := by
    have hlines := normalizeLines_of_notMem (h.return_notMem style)
    unfold inputOf Markup.renderAll
    rw [String.toList_ofList]
    split
    next heq => exact absurd (by rw [heq]; rfl) hmark
    · exact hlines
  have hfirst := Builder.inContent_first
  obtain ⟨t, d, is, ⟨k, hk, hread⟩, hgrows, hall⟩ := hfirst.putsAll rfl style h fun _ _ _ => by
    rintro ⟨i, s, hback, -⟩
    cases hback
  -- The fuel that reading the markup leaves is spent at the end of the text.
  have htree : readInBody (Markup.renderAll style ms) = t := by
    have hend := (hfirst.regrown hgrows d).readAll_nil ((Render.markupAll style ms).length - k)
    have hrun := hread ((Render.markupAll style ms).length - k) []
    rw [List.append_nil, Nat.sub_add_cancel hk, hend] at hrun
    unfold readInBody
    rw [hinput]
    exact congrArg Builder.tree hrun
  have hchildren : (t.node 1).children.toList = is := hgrows.children
  rw [readFragment, htree, hchildren]
  exact hall.filterMap_eq t.size (Nat.le_add_right _ _)

/-- Markup that fits comes back as it was exactly if nothing that is taken as it is is written as a reference. -/
theorem readFragment_renderAll_eq_iff (style : RenderStyle) {ms : List Markup} (h : AllFit [] ms)
    (hmark : (Render.markupAll style ms).head? ≠ some '\uFEFF') :
    readFragment (Markup.renderAll style ms) = ms ↔ allComeBack ms = true := by
  rw [readFragment_renderAll style h hmark]
  exact returnedAll_eq_iff

/-- What a provider may send: a quotation with a link, and a script. -/
def quotation : List Markup :=
  [.element "blockquote" (.ofList [("class", .text "post")])
    [.element "p" .empty [.text "1 < 2", .element "br" .empty [], .element "b" .empty [.text "3 & 4"]],
      .element "a" (.ofList [("href", .text "https://example.com/?a=1&b=\"2\"")]) [.text "more"]],
    .comment "now a script", .element "script" (.ofList [("async", .text "")]) [.text "load()"]]

/-- The quotation and its script come back as they were. -/
theorem readFragment_renderAll_quotation :
    AllFit [] quotation ∧ readFragment (Markup.renderAll .html quotation) = quotation := by
  have hfit : AllFit [] quotation := by decide +kernel
  exact ⟨hfit, (readFragment_renderAll_eq_iff .html hfit (by decide +kernel)).mpr (by decide +kernel)⟩

/-- A script is read as it is, but written with references. -/
theorem readFragment_renderAll_script :
    readFragment (Markup.renderAll .html (readFragment "<script>1<2</script>")) ≠
      readFragment "<script>1<2</script>" := by
  decide +kernel

end LinkEmbed.Html
