import LinkEmbed.Proofs.Markup.Reader

/-!
# Written markup can be read

The reader gets back from a text what was written, in its normal form. What is read of a node does not depend on
what stands behind it.

* `Reader.readChar_escapeTextChar`, `Reader.decode_escapeValue` — characters of text and of values come back.
* `Reader.readAttributes_attributes`, `Reader.readTag_start`, `Reader.readComment_append` — so do attributes, tags and
  comments.
* `Reader.ending_markup`, `Reader.ending_markupAll` — so do nodes, by recursion on them.
* `Markup.allNormal_normalForm` — the normal form has no empty text, no text beside text, and nothing in void
  elements.
* `Reader.read_renderAll` — whole texts come back, in either style of writing.
-/

namespace LinkEmbed

/-! ## Normal forms -/

/-- The attributes that are written, each with its text. -/
def Properties.written (p : Properties) : List (String × String) :=
  p.entries.filterMap fun e => e.2.attributeText?.map (e.1, ·)

namespace PlainMarkup

/-- Whether a node is text. -/
def isText : PlainMarkup → Bool
  | .text _ => true
  | _ => false

mutual

/-- A node without empty text, without text beside text, and without content in a void element. -/
def IsNormal : PlainMarkup → Prop
  | .element tag _ children => (Render.isVoidTag tag → children = []) ∧ AllNormal children
  | .text s => s ≠ ""
  | .comment _ => True

/-- Such nodes, of which no two neighbours are text. -/
def AllNormal : List PlainMarkup → Prop
  | [] => True
  | m :: r => m.IsNormal ∧ (m.isText → ∀ n ∈ r.head?, !n.isText) ∧ AllNormal r

end

/-- Two texts in front are one. -/
theorem addText_addText (s t : String) (ms : List PlainMarkup) :
    addText s (addText t ms) = addText (s ++ t) ms := by
  by_cases ht : t = ""
  · simp [addText, ht]
  · by_cases hs : s = ""
    · simp [addText, hs]
    · cases ms with
      | nil => simp [addText, hs, ht]
      | cons m r => cases m <;> simp [addText, hs, ht, String.append_assoc]

/-- Text in front of a normal form joins the text there, if any. -/
theorem AllNormal.addText {ms : List PlainMarkup} (h : AllNormal ms) (s : String) :
    AllNormal (addText s ms) := by
  by_cases hs : s = ""
  · simpa [PlainMarkup.addText, hs] using h
  · cases ms with
    | nil => simp [PlainMarkup.addText, hs, AllNormal, IsNormal]
    | cons m r => cases m <;> simp_all [PlainMarkup.addText, AllNormal, IsNormal, isText]

end PlainMarkup

namespace Markup

mutual

/-- The normal form of a node in front of nodes that are in normal form. -/
def normalBefore : Markup → List PlainMarkup → List PlainMarkup
  | .element tag p children, behind =>
    .element tag p.written (if Render.isVoidTag tag then [] else normalForm children) :: behind
  | .text s, behind => PlainMarkup.addText s behind
  | .comment s, behind => .comment s :: behind

/-- The normal form of nodes: attributes as they are written, no content in void elements, text beside text as
one, and no empty text. -/
def normalForm : List Markup → List PlainMarkup
  | [] => []
  | m :: r => normalBefore m (normalForm r)

end

mutual

/-- A node in front of a normal form makes one. -/
theorem allNormal_normalBefore (m : Markup) {behind : List PlainMarkup} (h : PlainMarkup.AllNormal behind) :
    PlainMarkup.AllNormal (m.normalBefore behind) := by
  cases m with
  | element tag p children =>
    have hchildren := allNormal_normalForm children
    simp only [normalBefore, PlainMarkup.AllNormal, PlainMarkup.IsNormal]
    refine ⟨⟨fun hvoid => by simp [hvoid], ?_⟩, by simp [PlainMarkup.isText], h⟩
    split
    · trivial
    · exact hchildren
  | text s => exact h.addText s
  | comment s => exact ⟨trivial, by simp [PlainMarkup.isText], h⟩

theorem allNormal_normalForm (ms : List Markup) : PlainMarkup.AllNormal (normalForm ms) := by
  cases ms with
  | nil => trivial
  | cons m r => exact allNormal_normalBefore m (allNormal_normalForm r)

end

end Markup

/-! ## Names and comments that can be written -/

/-- A name as tags and attributes have it. -/
structure Reader.IsName (s : String) : Prop where
  nonempty : s ≠ ""
  no_mark : s.toList.head? ≠ some '!'
  chars : s.toList.all Reader.isNameChar

instance (s : String) : Decidable (Reader.IsName s) :=
  decidable_of_iff (s ≠ "" ∧ s.toList.head? ≠ some '!' ∧ s.toList.all Reader.isNameChar)
    ⟨fun h => ⟨h.1, h.2.1, h.2.2⟩, fun h => ⟨h.nonempty, h.no_mark, h.chars⟩⟩

namespace Markup

mutual

/-- A node with names for its tag and its attributes and no end of a comment inside one, at any depth. -/
def IsWritable : Markup → Prop
  | .element tag p children =>
    Reader.IsName tag ∧ (∀ e ∈ p.entries, Reader.IsName e.1) ∧ AllWritable children
  | .text _ => True
  | .comment s => ¬ "-->".toList <:+: s.toList

/-- Such nodes. -/
def AllWritable : List Markup → Prop
  | [] => True
  | m :: r => m.IsWritable ∧ AllWritable r

end

end Markup

namespace Reader

open Render (escapeTextChar escapeValueChar escapeText escapeValue)

/-! ## Characters and references -/

theorem readChar_of_ne {c : Char} (h : c ≠ '&') (r : List Char) : readChar c r = (c, r) := by
  unfold readChar
  split <;> simp_all

/-- A character as text is written it: no bracket is in front, and it is read as that character. -/
theorem readChar_escapeTextChar (c : Char) :
    ∃ d t, escapeTextChar c = d :: t ∧ d ≠ '<' ∧ ∀ r, readChar d (t ++ r) = (c, r) := by
  unfold escapeTextChar
  split
  · exact ⟨'&', ['a', 'm', 'p', ';'], by decide, by decide, fun _ => rfl⟩
  · exact ⟨'&', ['l', 't', ';'], by decide, by decide, fun _ => rfl⟩
  · exact ⟨'&', ['g', 't', ';'], by decide, by decide, fun _ => rfl⟩
  next hamp hlt hgt => exact ⟨c, [], rfl, hlt, readChar_of_ne hamp⟩

/-- A character of a value is read as that character. -/
theorem readChar_escapeValueChar (c : Char) :
    ∃ d t, escapeValueChar c = d :: t ∧ ∀ r, readChar d (t ++ r) = (c, r) := by
  unfold escapeValueChar
  split
  · exact ⟨'&', ['q', 'u', 'o', 't', ';'], by decide, fun _ => rfl⟩
  · obtain ⟨d, t, heq, -, hread⟩ := readChar_escapeTextChar c
    exact ⟨d, t, heq, hread⟩

/-- A text in front of what can be read. -/
theorem ending_escapeText (s : String) {r : List Char} {e : Ending} (h : ending r = some e) :
    ending (escapeText s ++ r) = some { e with nodes := PlainMarkup.addText s e.nodes } := by
  suffices hall : ∀ cs : List Char, ending (cs.flatMap escapeTextChar ++ r) =
      some { e with nodes := PlainMarkup.addText (String.ofList cs) e.nodes } by
    simpa [escapeText] using hall s.toList
  intro cs
  induction cs with
  | nil => simpa [PlainMarkup.addText] using h
  | cons c cs ih =>
    obtain ⟨d, t, heq, hd, hread⟩ := readChar_escapeTextChar c
    rw [List.flatMap_cons, heq, List.append_assoc, List.cons_append, ending_char hd, hread, ih]
    simp only [Option.bind_some, Ending.put, PlainMarkup.addText_addText, String.ofList_cons]

/-- A value comes back. -/
theorem decode_escapeValue (s : String) : decode (escapeValue s) = s.toList := by
  unfold escapeValue
  induction s.toList with
  | nil => simp [decode]
  | cons c cs ih =>
    obtain ⟨d, t, heq, hread⟩ := readChar_escapeValueChar c
    rw [List.flatMap_cons, heq, List.cons_append, decode, hread, ih]

/-- It ends at its quotation mark, as there is none inside. -/
theorem readValue_escapeValue (s : String) (r : List Char) :
    readValue (escapeValue s ++ '"' :: r) = some (s, r) := by
  have hall : ∀ c ∈ escapeValue s, (c != '"') = true := fun c hc => bne_iff_ne.mpr (Render.mem_escapeValue hc)
  unfold readValue
  rw [List.dropWhile_append_of_pos hall, List.takeWhile_append_of_pos hall]
  simp [decode_escapeValue]

/-! ## Tags -/

/-- A name has a first character, which opens neither a comment nor an end tag. -/
theorem IsName.toList_eq {s : String} (h : IsName s) :
    ∃ c cs, s.toList = c :: cs ∧ c ≠ '!' ∧ isNameChar c := by
  have hchars := List.all_eq_true.mp h.chars
  have hmark := h.no_mark
  cases hs : s.toList with
  | nil => exact absurd (String.toList_eq_nil_iff.mp hs) h.nonempty
  | cons c cs =>
    rw [hs] at hchars hmark
    exact ⟨c, cs, rfl, fun heq => hmark (by rw [heq]; rfl), hchars c List.mem_cons_self⟩

/-- A name ends where a character comes that may not stand in one. -/
theorem readName_append {s : String} (h : IsName s) {r : List Char} (hr : ∀ c ∈ r.head?, isNameChar c = false) :
    readName (s.toList ++ r) = some (s, r) := by
  obtain ⟨c, cs, heq, hmark, -⟩ := h.toList_eq
  have hchars := List.all_eq_true.mp h.chars
  have htake : (s.toList ++ r).takeWhile isNameChar = c :: cs := by
    rw [List.takeWhile_append_of_pos hchars, heq]
    cases r with
    | nil => simp
    | cons d r => simp [hr d rfl]
  have hdrop : (s.toList ++ r).dropWhile isNameChar = r := by
    rw [List.dropWhile_append_of_pos hchars]
    cases r with
    | nil => rfl
    | cons d r => simp [hr d rfl]
  unfold readName
  rw [htake, hdrop]
  -- A name is read if it is not empty and does not begin with a mark.
  split
  next hnil => cases hnil
  next hcons => exact absurd (List.cons.inj hcons).1 hmark
  · rw [← heq, String.ofList_toList]

/-- No name looks like the end of a tag. -/
theorem IsName.append_ne_slash {s : String} (h : IsName s) (x r : List Char) : s.toList ++ x ≠ '/' :: r := by
  obtain ⟨c, cs, heq, -, hc⟩ := h.toList_eq
  rw [heq]
  rintro ⟨⟩
  cases hc

/-- An attribute on its own. -/
theorem readAttribute_bare {name : String} (h : IsName name) {r : List Char}
    (hr : ∀ c ∈ r.head?, c = ' ' ∨ c = '>') : readAttribute (name.toList ++ r) = some ((name, ""), r) := by
  have hstop : ∀ c ∈ r.head?, isNameChar c = false := by
    intro c hc
    rcases hr c hc with rfl | rfl <;> rfl
  unfold readAttribute
  rw [readName_append h hstop]
  split
  next hnone => cases hnone
  next hvalue =>
    obtain ⟨-, rfl⟩ := Prod.mk.inj (Option.some.inj hvalue)
    -- An equals sign would have to come first in what follows.
    rcases hr '=' rfl with hblank | hclose
    · cases hblank
    · cases hclose
  next hsome =>
    obtain ⟨rfl, rfl⟩ := Prod.mk.inj (Option.some.inj hsome)
    rfl

/-- An attribute with a value. -/
theorem readAttribute_value {name : String} (h : IsName name) (value : String) (r : List Char) :
    readAttribute (name.toList ++ '=' :: '"' :: (escapeValue value ++ '"' :: r)) = some ((name, value), r) := by
  unfold readAttribute
  rw [readName_append h (by rintro c ⟨⟩; rfl)]
  simp only [readValue_escapeValue, Option.map_some]

/-- A blank or the end of the tag is in front of what is read as attributes. -/
theorem head_of_readAttributes {r : List Char} {x : List (String × String) × List Char}
    (h : readAttributes r = some x) : ∀ c ∈ r.head?, c = ' ' ∨ c = '>' := by
  unfold readAttributes at h
  split at h
  · simp
  · simp
  · simp
  · cases h

/-- A property in front of attributes: it is not written, written on its own, or with its value. -/
theorem readAttributes_oneAttribute {name : String} (hname : IsName name) (v : Scalar) {r r' : List Char}
    {attributes : List (String × String)} (h : readAttributes r = some (attributes, r')) :
    readAttributes (Render.oneAttribute name v ++ r) =
      some ((v.attributeText?.map (name, ·)).toList ++ attributes, r') := by
  have hname' := fun x r => hname.append_ne_slash x ('>' :: r)
  -- The value decides which of the three is written.
  unfold Render.oneAttribute
  split
  next hnone => simpa [hnone] using h
  next text htext =>
    split
    next htrue =>
      subst htrue
      obtain rfl : "" = text := Option.some.inj htext
      rw [List.cons_append, readAttributes_blank (hname' r),
        readAttribute_bare hname (head_of_readAttributes h)]
      simp [h, Scalar.attributeText?]
    next hother =>
      simp only [List.cons_append, List.append_assoc, List.nil_append]
      rw [readAttributes_blank (hname' _), readAttribute_value hname]
      simp [h, htext]

/-- All properties, up to the end of the tag. -/
theorem readAttributes_attributes {p : Properties} (hp : ∀ e ∈ p.entries, IsName e.1) {r r' : List Char}
    (h : readAttributes r = some ([], r')) :
    readAttributes (Render.attributes p ++ r) = some (p.written, r') := by
  unfold Render.attributes Properties.written
  -- The induction is on the entries, from the last to the first.
  generalize p.entries = es at hp
  induction es with
  | nil => simpa using h
  | cons e es ih =>
    have hmore := ih fun x hx => hp x (List.mem_cons_of_mem e hx)
    rw [List.flatMap_cons, List.append_assoc, readAttributes_oneAttribute (hp e List.mem_cons_self) e.2 hmore,
      List.filterMap_cons]
    cases e.2.attributeText? <;> rfl

/-- A start tag comes back. -/
theorem readTag_start {tag : String} (htag : IsName tag) {p : Properties} (hp : ∀ e ∈ p.entries, IsName e.1)
    {r r' : List Char} (h : readAttributes r = some ([], r')) :
    readTag (tag.toList ++ Render.attributes p ++ r) = some (.startTag tag p.written, r') := by
  have hattributes := readAttributes_attributes hp h
  have hstop : ∀ c ∈ (Render.attributes p ++ r).head?, isNameChar c = false := by
    intro c hc
    rcases head_of_readAttributes hattributes c hc with rfl | rfl <;> rfl
  rw [List.append_assoc]
  unfold readTag
  split
  -- A name begins with neither of the marks of a comment or of an end tag.
  next hmark =>
    obtain ⟨c, cs, heq, hc, -⟩ := htag.toList_eq
    rw [heq] at hmark
    exact absurd (List.cons.inj hmark).1 hc
  next hslash => exact absurd hslash (htag.append_ne_slash _ _)
  · rw [readName_append htag hstop]
    simp only [hattributes, Option.map_some]

/-- So does an end tag. -/
theorem readTag_end {tag : String} (htag : IsName tag) (r : List Char) :
    readTag ('/' :: (tag.toList ++ '>' :: r)) = some (.endTag tag, r) := by
  rw [readTag, readName_append htag (by rintro c ⟨⟩; rfl)]
  rfl

/-- Either style ends a tag. -/
theorem readAttributes_closeVoid (style : RenderStyle) (r : List Char) :
    readAttributes (Render.closeVoid style ++ r) = some ([], r) := by
  unfold Render.closeVoid
  split
  · exact readAttributes_selfClose r
  · exact readAttributes_close r

/-- A comment without its end inside is read up to its own end. -/
theorem readComment_append {s : List Char} (h : ¬ "-->".toList <:+: s) (r : List Char) :
    readComment (s ++ '-' :: '-' :: '>' :: r) = some (s, r) := by
  induction s with
  | nil => rfl
  | cons c s ih =>
    have hs : ¬ "-->".toList <:+: s := fun hin => h (hin.trans (List.suffix_cons c s).isInfix)
    rw [List.cons_append, readComment]
    · simp [ih hs]
    · rintro r' rfl heq
      -- The end of a comment that is found here has all its characters in `s`.
      rcases s with _ | ⟨a, _ | ⟨b, s⟩⟩
      · simp at heq
      · simp at heq
      · obtain ⟨rfl, rfl, -⟩ : a = '-' ∧ b = '>' ∧ s ++ '-' :: '-' :: '>' :: r = r' := by simpa using heq
        exact h ⟨[], s, rfl⟩

/-! ## Nodes -/

theorem ending_openTag {tag : String} (htag : IsName tag) {p : Properties} (hp : ∀ e ∈ p.entries, IsName e.1)
    {r r' : List Char} (h : readAttributes r = some ([], r')) :
    ending (Render.openTag tag p ++ r) = (ending r').bind (Ending.put (.startTag tag p.written)) := by
  rw [Render.openTag, List.cons_append, List.cons_append, ending_tag, readTag_start htag hp h]
  rfl

theorem ending_closeTag {tag : String} (htag : IsName tag) (r : List Char) :
    ending (Render.closeTag tag ++ r) = (ending r).bind (Ending.put (.endTag tag)) := by
  rw [Render.closeTag, List.append_assoc, List.cons_append, List.cons_append, ending_tag]
  rw [List.singleton_append, readTag_end htag]
  rfl

theorem ending_comment {s : String} (h : ¬ "-->".toList <:+: s.toList) (r : List Char) :
    ending ("<!--".toList ++ s.toList ++ "-->".toList ++ r) = (ending r).bind (Ending.put (.comment s)) := by
  have hread : readTag ('!' :: '-' :: '-' :: (s.toList ++ '-' :: '-' :: '>' :: r)) = some (.comment s, r) := by
    rw [readTag, readComment_append h]
    simp
  have hends : "<!--".toList ++ s.toList ++ "-->".toList ++ r =
      '<' :: '!' :: '-' :: '-' :: (s.toList ++ '-' :: '-' :: '>' :: r) := by
    simp
  rw [hends, ending_tag, hread]
  rfl

mutual

/-- A node in front of a text that can be read. -/
theorem ending_markup (style : RenderStyle) {m : Markup} (hm : m.IsWritable) {r : List Char} {e : Ending}
    (h : ending r = some e) :
    ending (Render.markup style m ++ r) = some { e with nodes := m.normalBefore e.nodes } := by
  match m, hm with
  | .element tag p children, ⟨htag, hp, hchildren⟩ =>
    unfold Render.markup
    split
    next hvoid =>
      rw [List.append_assoc, ending_openTag htag hp (readAttributes_closeVoid style r), h]
      simp [Ending.put, Markup.normalBefore, hvoid]
    next hvoid =>
      -- The end tag is known first, and waits for its start tag while the content is read.
      have hclose : ending (Render.closeTag tag ++ r) = some ⟨[], (tag, e.nodes) :: e.awaited⟩ := by
        rw [ending_closeTag htag, h]
        rfl
      have hcontent := ending_markupAll style hchildren hclose
      simp only [List.append_assoc, List.cons_append]
      rw [ending_openTag htag hp (readAttributes_close _), hcontent]
      simp [Ending.put, Markup.normalBefore, hvoid]
  | .text s, _ => exact ending_escapeText s h
  | .comment s, hm =>
    rw [Render.markup, ending_comment hm, h]
    rfl

/-- Nodes in front of a text behind which nothing stands at their depth. -/
theorem ending_markupAll (style : RenderStyle) {ms : List Markup} (hms : Markup.AllWritable ms) {r : List Char}
    {awaited : List (String × List PlainMarkup)} (h : ending r = some ⟨[], awaited⟩) :
    ending (Render.markupAll style ms ++ r) = some ⟨Markup.normalForm ms, awaited⟩ := by
  match ms, hms with
  | [], _ => simpa [Render.markupAll, Markup.normalForm] using h
  | m :: ms, hms =>
    rw [Render.markupAll, List.append_assoc]
    exact ending_markup style hms.1 (ending_markupAll style hms.2 h)

end

/-- A whole text can be read, as nothing is awaited behind it. -/
theorem read_markupAll (style : RenderStyle) {ms : List Markup} (h : Markup.AllWritable ms) :
    read (String.ofList (Render.markupAll style ms)) = some (Markup.normalForm ms) := by
  have hall := ending_markupAll style h (r := []) (by rw [ending])
  rw [read, String.toList_ofList, ← List.append_nil (Render.markupAll style ms), hall]
  rfl

/-- **What is written is read back.** Nodes with names for their tags and attributes and no end of a comment
inside one are read back in their normal form, so two lists of nodes that are written alike have one normal
form. -/
theorem read_renderAll {ms : List Markup} (h : Markup.AllWritable ms) (style : RenderStyle) :
    read (Markup.renderAll style ms) = some (Markup.normalForm ms) ∧
      PlainMarkup.AllNormal (Markup.normalForm ms) ∧
      ∀ (style' : RenderStyle) (ns : List Markup), Markup.AllWritable ns →
        Markup.renderAll style' ns = Markup.renderAll style ms →
          Markup.normalForm ns = Markup.normalForm ms := by
  have hread := read_markupAll style h
  refine ⟨hread, Markup.allNormal_normalForm ms, ?_⟩
  intro style' ns hns heq
  have hread' := read_markupAll style' hns
  exact Option.some.inj (hread'.symm.trans ((congrArg read heq).trans hread))

/-- Text that looks like markup, neighbouring and empty text, a comment that ends in dashes, all kinds of
properties, and a void element with content. -/
theorem read_renderAll_card :
    read (Markup.renderAll .xhtml
        [.text "1 < 2 &lt; 3", .text "", .text "&amp;quot;", .comment " <p> --",
          .element "div" (.ofList [("class", .text "a \"b\" &quot; c"), ("hidden", .bool true),
            ("width", .integer (-7)), ("id", .null), ("open", .bool false)])
            [.element "img" (.ofList [("alt", .text "")]) [.text "lost"], .text "</div>"]]) =
      some
        [.text "1 < 2 &lt; 3&amp;quot;", .comment " <p> --",
          .element "div" [("class", "a \"b\" &quot; c"), ("hidden", ""), ("width", "-7")]
            [.element "img" [("alt", "")] [], .text "</div>"]] := by
  have hcomment : ¬ "-->".toList <:+: " <p> --".toList := by simp [List.infix_cons_iff]
  have himage : Markup.IsWritable (.element "img" (.ofList [("alt", .text "")]) [.text "lost"]) :=
    ⟨by decide, by decide, trivial, trivial⟩
  refine (read_renderAll ?_ .xhtml).1.trans rfl
  exact ⟨trivial, trivial, trivial, hcomment, ⟨by decide, by decide, himage, trivial, trivial⟩, trivial⟩

end Reader

end LinkEmbed
