import LinkEmbed.Proofs.Html.Elements
import LinkEmbed.Proofs.Markup.Decodable
import LinkEmbed.Proofs.Properties.Merge

/-!
# Markup that fits

Markup that a reader leaves where it is put: elements of the five kinds whose names, attributes and texts are read
as they are, and of which none stands where its tag would close another. Whether markup fits can be decided.

* `AttributesFit.propertiesOf_eq` — attributes that fit are read as they were.
* `Fits.return_notMem` — no carriage return is written, so the reader finds the lines as they were written.
* `returned_eq_iff` — what comes back differs only in text that is taken as it is and has a character that is
  written as a reference.
-/

namespace LinkEmbed.Html

/-! ## Markup that stays where it is put -/

/-- A clean text as the value of a property. -/
def IsCleanText : Scalar → Prop
  | .text s => IsClean s
  | _ => False

/-- Attributes as the reader leaves them: texts, in the order of their names. -/
structure AttributesFit (p : Properties) : Prop where
  fit : ∀ e ∈ p.entries, IsAttributeName e.1 ∧ IsCleanText e.2
  sorted : (entryNames p.entries).Pairwise (· < ·)

/-- Elements that may not stand in a paragraph. -/
def EndsParagraph (tag : String) : Prop := tag ∈ blockNames ∨ tag = "hr" ∨ tag = "xmp"

/-- Whether a node is text. -/
def isText : Markup → Bool
  | .text _ => true
  | _ => false

/-- No content, or one text. -/
def IsRawContent : List Markup → Prop
  | [] => True
  | [.text s] => s ≠ "" ∧ IsClean s
  | _ => False

/-- What an element may have inside it, by its kind, given what content that is read as usual has to be. -/
def ContentFits (names : List String) (tag : String) (children : List Markup) (fit : Prop) :
    Option ElementKind → Prop
  | some .solitary => children = []
  | some .raw => IsRawContent children
  | some .formatting => tag ∉ names ∧ fit
  | some .block | some .ordinary => fit
  | none => False

mutual

/-- Markup that the reader leaves as it is inside elements of the names given. -/
def Fits (names : List String) : Markup → Prop
  | .text s => s ≠ "" ∧ IsClean s
  | .comment s => Lexer.IsComment s
  | .element tag p children =>
    AttributesFit p ∧ (EndsParagraph tag → "p" ∉ names) ∧
      ContentFits names tag children (AllFit (tag :: names) children) (kindOf? tag)

/-- Such nodes, of which no two neighbours are text. -/
def AllFit (names : List String) : List Markup → Prop
  | [] => True
  | m :: ms => Fits names m ∧ (isText m → ∀ n ∈ ms.head?, !isText n) ∧ AllFit names ms

end

/-! ## Deciding what fits -/

instance : DecidablePred IsCleanText
  | .text s => inferInstanceAs (Decidable (IsClean s))
  | .integer _ | .float _ | .bool _ | .null => inferInstanceAs (Decidable False)

instance : DecidablePred AttributesFit := fun p =>
  decidable_of_iff
    ((∀ e ∈ p.entries, IsAttributeName e.1 ∧ IsCleanText e.2) ∧ (entryNames p.entries).Pairwise (· < ·))
    ⟨fun h => ⟨h.1, h.2⟩, fun h => ⟨h.1, h.2⟩⟩

instance : DecidablePred EndsParagraph := fun tag =>
  inferInstanceAs (Decidable (tag ∈ blockNames ∨ tag = "hr" ∨ tag = "xmp"))

instance : DecidablePred IsRawContent
  | [] => inferInstanceAs (Decidable True)
  | [.text s] => inferInstanceAs (Decidable (s ≠ "" ∧ IsClean s))
  | .element _ _ _ :: _ | .comment _ :: _ | .text _ :: _ :: _ => inferInstanceAs (Decidable False)

instance decidableContentFits (names : List String) (tag : String) (children : List Markup) (fit : Prop)
    [Decidable fit] : DecidablePred (ContentFits names tag children fit)
  | some .solitary => inferInstanceAs (Decidable (children = []))
  | some .raw => inferInstanceAs (Decidable (IsRawContent children))
  | some .formatting => inferInstanceAs (Decidable (tag ∉ names ∧ fit))
  | some .block | some .ordinary => inferInstanceAs (Decidable fit)
  | none => inferInstanceAs (Decidable False)

mutual

instance decidableFits (names : List String) : (m : Markup) → Decidable (Fits names m)
  | .text s => inferInstanceAs (Decidable (s ≠ "" ∧ IsClean s))
  | .comment s => inferInstanceAs (Decidable (Lexer.IsComment s))
  | .element tag p children =>
    have : Decidable (AllFit (tag :: names) children) := decidableAllFit (tag :: names) children
    have : Decidable (ContentFits names tag children (AllFit (tag :: names) children) (kindOf? tag)) :=
      decidableContentFits _ _ _ _ _
    inferInstanceAs (Decidable (AttributesFit p ∧ (EndsParagraph tag → "p" ∉ names) ∧
      ContentFits names tag children (AllFit (tag :: names) children) (kindOf? tag)))

instance decidableAllFit (names : List String) : (ms : List Markup) → Decidable (AllFit names ms)
  | [] => inferInstanceAs (Decidable True)
  | m :: ms =>
    have := decidableFits names m
    have := decidableAllFit names ms
    inferInstanceAs (Decidable (Fits names m ∧ (isText m → ∀ n ∈ ms.head?, !isText n) ∧ AllFit names ms))

end

/-! ## What comes back -/

/-- A text that has been escaped. -/
def escaped : Markup → Markup
  | .text s => .text (String.ofList (Render.escapeText s))
  | m => m

mutual

/-- What comes back of a node: text that is taken as it is comes back escaped. -/
def returned : Markup → Markup
  | .element tag p children =>
    .element tag p (if tag ∈ Lexer.rawNames then children.map escaped else returnedAll children)
  | .text s => .text s
  | .comment s => .comment s

/-- What comes back of nodes. -/
def returnedAll : List Markup → List Markup
  | [] => []
  | m :: ms => returned m :: returnedAll ms

end

/-! ## Attributes -/

/-- Nothing but a text is a clean text. -/
theorem IsCleanText.exists_eq {v : Scalar} (h : IsCleanText v) : ∃ s, v = .text s ∧ IsClean s :=
  match v, h with
  | .text s, h => ⟨s, rfl, h⟩

namespace AttributesFit

variable {p : Properties}

/-- All values are texts, so each property is written. -/
theorem entries_eq (h : AttributesFit p) : p.entries = p.written.map fun a => (a.1, .text a.2) := by
  have hall : ∀ es : List (String × Scalar), (∀ e ∈ es, ∃ s, e.2 = .text s) →
      es = (es.filterMap fun e => e.2.attributeText?.map (e.1, ·)).map fun a => (a.1, .text a.2) := by
    intro es
    induction es with
    | nil => exact fun _ => rfl
    | cons e r ih =>
      intro htext
      obtain ⟨s, hs⟩ := htext e List.mem_cons_self
      have hr := ih fun d hd => htext d (List.mem_cons_of_mem e hd)
      obtain ⟨name, v⟩ := e
      obtain rfl : v = .text s := hs
      exact congrArg ((name, Scalar.text s) :: ·) hr
  -- What fits has texts only.
  refine hall p.entries fun e he => ?_
  obtain ⟨s, hs, -⟩ := (h.fit e he).2.exists_eq
  exact ⟨s, hs⟩

/-- So the names that are written are those of the properties. -/
theorem names_written (h : AttributesFit p) : entryNames p.written = entryNames p.entries := by
  rw [h.entries_eq, entryNames, entryNames, List.map_map]
  rfl

/-- What is written for them, one after another. -/
theorem attributes_eq (h : AttributesFit p) : Render.attributes p = p.written.flatMap Lexer.attributeText := by
  have hone : ∀ a : String × String, Render.oneAttribute a.1 (.text a.2) = Lexer.attributeText a := by
    intro a
    simp [Render.oneAttribute, Scalar.attributeText?, Lexer.attributeText]
  rw [Render.attributes, h.entries_eq, List.flatMap_map]
  exact congrArg (List.flatMap · p.written) (funext hone)

/-- They are read back, as their names are distinct. -/
theorem areWritten (h : AttributesFit p) : Lexer.AreWritten p.written := by
  refine ⟨?_, ?_⟩
  · intro a ha
    have hmem : (a.1, Scalar.text a.2) ∈ p.entries := h.entries_eq ▸ List.mem_map_of_mem ha
    exact h.fit _ hmem
  · rw [h.names_written]
    exact p.distinct

/-- The attributes of an element are read as they were. -/
theorem propertiesOf_eq (h : AttributesFit p) : Tree.propertiesOf (Builder.plainAttributes p.written) = p := by
  have hplain : ∀ a ∈ Builder.plainAttributes p.written, a.label = none := by
    intro a ha
    obtain ⟨e, -, rfl⟩ := List.mem_map.mp ha
    rfl
  have hnames : (Builder.plainAttributes p.written).map (·.name) = entryNames p.entries := by
    rw [← h.names_written, Builder.plainAttributes, entryNames, List.map_map]
    rfl
  have hsorted := Tree.sortAttributes_of_pairwise hplain (by rw [hnames]; exact h.sorted)
  have hentries : (Builder.plainAttributes p.written).map (fun a => (a.name, Scalar.text a.value)) = p.entries := by
    rw [h.entries_eq, Builder.plainAttributes, List.map_map]
    rfl
  rw [Tree.propertiesOf, hsorted, hentries, Properties.ofList_entries]

end AttributesFit

/-! ## Clean text -/

/-- References are clean. -/
theorem mem_escapeTextChar_of_clean {c d : Char} (hd : d ≠ '\x00' ∧ d ≠ '\r') (hc : c ∈ Render.escapeTextChar d) :
    c ≠ '\x00' ∧ c ≠ '\r' := by
  have hreference : ∀ s ∈ ["&amp;", "&lt;", "&gt;"], IsClean s := by decide
  unfold Render.escapeTextChar at hc
  split at hc
  · exact hreference "&amp;" (by decide) c hc
  · exact hreference "&lt;" (by decide) c hc
  · exact hreference "&gt;" (by decide) c hc
  · rw [List.mem_singleton.mp hc]
    exact hd

/-- A clean text is clean when it is escaped. -/
theorem mem_escapeText_of_clean {s : String} (hs : IsClean s) {c : Char} (hc : c ∈ Render.escapeText s) :
    c ≠ '\x00' ∧ c ≠ '\r' := by
  obtain ⟨d, hd, hmem⟩ := List.mem_flatMap.mp hc
  exact mem_escapeTextChar_of_clean (hs d hd) hmem

/-- So is the value of an attribute. -/
theorem return_notMem_escapeValue {s : String} (hs : IsClean s) : '\r' ∉ Render.escapeValue s := by
  intro hc
  obtain ⟨d, hd, hmem⟩ := List.mem_flatMap.mp hc
  unfold Render.escapeValueChar at hmem
  split at hmem
  · revert hmem
    decide
  · exact (mem_escapeTextChar_of_clean (hs d hd) hmem).2 rfl

theorem return_notMem_of_isNameChar {s : String} (hs : s.toList.all isNameChar) : '\r' ∉ s.toList :=
  fun hc => (isNameChar_iff.mp (List.all_eq_true.mp hs _ hc)).2.2.1 rfl

theorem AttributesFit.return_notMem {p : Properties} (h : AttributesFit p) : '\r' ∉ Render.attributes p := by
  rw [h.attributes_eq]
  intro hc
  obtain ⟨a, ha, hmem⟩ := List.mem_flatMap.mp hc
  obtain ⟨hname, hvalue⟩ := h.areWritten.fit a ha
  have hnotName := return_notMem_of_isNameChar hname.chars
  have hnotValue := return_notMem_escapeValue hvalue
  simp [Lexer.attributeText, hnotName, hnotValue] at hmem

mutual

/-- No carriage return is written for markup that fits. -/
theorem Fits.return_notMem {names : List String} {m : Markup} (h : Fits names m) (style : RenderStyle) :
    '\r' ∉ Render.markup style m := by
  match m, h with
  | .text s, ⟨_, hs⟩ => exact fun hc => (mem_escapeText_of_clean hs hc).2 rfl
  | .comment s, hs =>
    have hclean : '\r' ∉ s.toList := fun hc => (hs.clean _ hc).2 rfl
    simp [Render.markup, hclean]
  | .element tag p children, ⟨hp, _, hchildren⟩ =>
    cases hkind : kindOf? tag with
    | none =>
      rw [hkind] at hchildren
      exact hchildren.elim
    | some kind =>
      rw [hkind] at hchildren
      -- A carriage return could stand in the name, the attributes or the content.
      have htag := return_notMem_of_isNameChar (spec_of_kindOf? hkind).1.chars
      have hattributes := hp.return_notMem
      have hcontent : '\r' ∉ Render.markupAll style children := by
        cases kind with
        | solitary =>
          obtain rfl : children = [] := hchildren
          exact List.not_mem_nil
        | raw =>
          match children, hchildren with
          | [], _ => exact List.not_mem_nil
          | [.text s], ⟨_, hs⟩ =>
            rw [Render.markupAll, Render.markup, Render.markupAll, List.append_nil]
            exact fun hc => (mem_escapeText_of_clean hs hc).2 rfl
        | block => exact AllFit.return_notMem hchildren style
        | formatting => exact AllFit.return_notMem hchildren.2 style
        | ordinary => exact AllFit.return_notMem hchildren style
      have hvoid : '\r' ∉ Render.closeVoid style := by
        unfold Render.closeVoid
        split <;> decide
      rw [Render.markup]
      split <;> simp [Render.openTag, Render.closeTag, htag, hattributes, hcontent, hvoid]

/-- The same for nodes. -/
theorem AllFit.return_notMem {names : List String} {ms : List Markup} (h : AllFit names ms) (style : RenderStyle) :
    '\r' ∉ Render.markupAll style ms := by
  match ms, h with
  | [], _ => exact List.not_mem_nil
  | m :: ms, ⟨hm, _, hms⟩ =>
    rw [Render.markupAll, List.mem_append, not_or]
    exact ⟨hm.return_notMem style, hms.return_notMem style⟩

end

/-! ## What comes back the same -/

/-- Whether a node is no text with a character that is written as a reference. -/
def hasNoReference : Markup → Bool
  | .text s => s.toList.all fun c => c != '&' && c != '<' && c != '>'
  | _ => true

mutual

/-- Whether all text in a node that is taken as it is is written as it is. -/
def comesBack : Markup → Bool
  | .element tag _ children => if tag ∈ Lexer.rawNames then children.all hasNoReference else allComeBack children
  | _ => true

/-- The same for nodes. -/
def allComeBack : List Markup → Bool
  | [] => true
  | m :: ms => comesBack m && allComeBack ms

end

/-- Escaping leaves a text as it is only if none of its characters is written as a reference. -/
theorem flatMap_escapeTextChar_eq_iff {cs : List Char} :
    cs.flatMap Render.escapeTextChar = cs ↔ cs.all (fun c => c != '&' && c != '<' && c != '>') = true := by
  induction cs with
  | nil => simp
  | cons c cs ih =>
    -- A reference is longer than the character, and what follows does not get shorter.
    have hle := Lexer.length_le_flatMap Render.escapeTextChar_ne_nil cs
    rw [List.flatMap_cons, List.all_cons, Bool.and_eq_true, ← ih]
    generalize cs.flatMap Render.escapeTextChar = more at hle ⊢
    have hlong : ∀ r : List Char, 2 ≤ r.length → r ++ more ≠ c :: cs := by
      intro r hr heq
      have hlength := congrArg List.length heq
      rw [List.length_append, List.length_cons] at hlength
      omega
    unfold Render.escapeTextChar
    split
    · simpa using hlong "&amp;".toList (by decide)
    · simp
    · simp
    next hamp hlt hgt =>
      have hplain : (c != '&' && c != '<' && c != '>') = true := by
        simp only [Bool.and_eq_true, bne_iff_ne]
        exact ⟨⟨hamp, hlt⟩, hgt⟩
      rw [List.singleton_append, List.cons.injEq]
      exact ⟨fun h => ⟨hplain, h.2⟩, fun h => ⟨rfl, h.2⟩⟩

/-- The same for a node. -/
theorem escaped_eq_iff {m : Markup} : escaped m = m ↔ hasNoReference m = true := by
  cases m with
  | text s =>
    rw [hasNoReference, ← flatMap_escapeTextChar_eq_iff, escaped, Markup.text.injEq, ← String.toList_inj,
      String.toList_ofList]
    rfl
  | element tag p children => simp [escaped, hasNoReference]
  | comment s => simp [escaped, hasNoReference]

mutual

/-- A node comes back as it was exactly if no text that is taken as it is needs a reference. -/
theorem returned_eq_iff {m : Markup} : returned m = m ↔ comesBack m = true := by
  match m with
  | .text s => simp [returned, comesBack]
  | .comment s => simp [returned, comesBack]
  | .element tag p children =>
    rw [returned, comesBack, Markup.element.injEq]
    simp only [true_and]
    split
    · have hmap : children.map escaped = children ↔ ∀ m ∈ children, escaped m = m := by
        simpa using List.map_inj_left (l := children) (f := escaped) (g := id)
      rw [hmap, List.all_eq_true]
      exact forall₂_congr fun m _ => escaped_eq_iff
    · exact returnedAll_eq_iff

/-- The same for nodes. -/
theorem returnedAll_eq_iff {ms : List Markup} : returnedAll ms = ms ↔ allComeBack ms = true := by
  match ms with
  | [] => simp [returnedAll, allComeBack]
  | m :: ms =>
    rw [returnedAll, allComeBack, List.cons.injEq, Bool.and_eq_true, returned_eq_iff, returnedAll_eq_iff]

end

end LinkEmbed.Html
