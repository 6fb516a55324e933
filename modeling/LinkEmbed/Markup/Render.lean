import LinkEmbed.Markup.Basic

/-!
# Writing markup

Markup as HTML text. Text and attribute values are escaped here and nowhere else, so no text can open or
close a tag (`mem_escapeText`).
-/

namespace LinkEmbed

/-- How documents are written: whether void elements end in ` />`, and whether source HTML is passed
through unescaped. -/
structure RenderStyle where
  selfClosing : Bool := true
  rawHtml : Bool := false
deriving DecidableEq, Repr

namespace RenderStyle

/-- Void elements end in ` />`; source HTML is escaped. -/
def xhtml : RenderStyle := ⟨true, false⟩

/-- Void elements end in `>`; source HTML is escaped. -/
def html : RenderStyle := ⟨false, false⟩

end RenderStyle

namespace Render

/-- The reference for a character that may not stand in text. -/
def escapeTextChar : Char → List Char
  | '&' => "&amp;".toList
  | '<' => "&lt;".toList
  | '>' => "&gt;".toList
  | c => [c]

/-- Text with `&`, `<` and `>` as references. -/
def escapeText (s : String) : List Char := s.toList.flatMap escapeTextChar

/-- The reference for a character that may not stand in a quoted attribute value. -/
def escapeValueChar : Char → List Char
  | '"' => "&quot;".toList
  | c => escapeTextChar c

/-- Text with `&`, `<`, `>` and `"` as references. -/
def escapeValue (s : String) : List Char := s.toList.flatMap escapeValueChar

/-- The elements that have no content and no end tag. -/
def voidTags : List String :=
  ["area", "base", "br", "col", "embed", "hr", "img", "input", "link", "meta", "param", "source",
    "track", "wbr"]

/-- Whether an element of this tag has no content. -/
def isVoidTag (tag : String) : Bool := voidTags.contains tag

/-- One attribute with a blank before it: nothing for `null` and `false`, the bare name for `true`. -/
def oneAttribute (name : String) (value : Scalar) : List Char :=
  match value.attributeText? with
  | none => []
  | some text =>
    if value = .bool true then ' ' :: name.toList
    else ' ' :: name.toList ++ '=' :: '"' :: escapeValue text ++ ['"']

/-- The attributes of a start tag, in order. -/
def attributes (p : Properties) : List Char := p.entries.flatMap fun e => oneAttribute e.1 e.2

/-- A start tag up to its closing bracket. -/
def openTag (tag : String) (p : Properties) : List Char := '<' :: tag.toList ++ attributes p

/-- The end of the only tag of a void element. -/
def closeVoid (style : RenderStyle) : List Char :=
  if style.selfClosing then [' ', '/', '>'] else ['>']

/-- An end tag. -/
def closeTag (tag : String) : List Char := '<' :: '/' :: tag.toList ++ ['>']

mutual

/-- A node of markup. A void element drops its children. -/
def markup (style : RenderStyle) : Markup → List Char
  | .element tag p children =>
    if isVoidTag tag then openTag tag p ++ closeVoid style
    else openTag tag p ++ '>' :: markupAll style children ++ closeTag tag
  | .text s => escapeText s
  | .comment s => "<!--".toList ++ s.toList ++ "-->".toList

/-- A list of nodes of markup, one after the other. -/
def markupAll (style : RenderStyle) : List Markup → List Char
  | [] => []
  | m :: r => markup style m ++ markupAll style r

end

end Render

/-- A list of nodes as HTML text. -/
def Markup.renderAll (style : RenderStyle) (ms : List Markup) : String :=
  String.ofList (Render.markupAll style ms)

/-- An element as HTML text. -/
def Element.render (style : RenderStyle) (e : Element) : String :=
  Markup.renderAll style [e.toMarkup]

namespace Render

/-- A character of escaped text is no bracket. -/
theorem mem_escapeText {s : String} {c : Char} (h : c ∈ escapeText s) : c ≠ '<' ∧ c ≠ '>' := by
  simp only [escapeText, List.mem_flatMap] at h
  obtain ⟨a, -, ha⟩ := h
  unfold escapeTextChar at ha
  split at ha
  · simp at ha; grind
  · simp at ha; grind
  · simp at ha; grind
  · simp at ha; grind

theorem escapeTextChar_ne_nil (c : Char) : escapeTextChar c ≠ [] := by
  unfold escapeTextChar
  split <;> simp

theorem escapeValueChar_ne_nil (c : Char) : escapeValueChar c ≠ [] := by
  unfold escapeValueChar
  split
  · simp
  · exact escapeTextChar_ne_nil c

/-- A character of an escaped value is no quotation mark. -/
theorem mem_escapeValue {s : String} {c : Char} (h : c ∈ escapeValue s) : c ≠ '"' := by
  obtain ⟨a, -, ha⟩ := List.mem_flatMap.mp h
  rintro rfl
  unfold escapeValueChar at ha
  split at ha
  · revert ha
    decide
  next hquote =>
    unfold escapeTextChar at ha
    split at ha
    · revert ha
      decide
    · revert ha
      decide
    · revert ha
      decide
    · exact hquote (List.mem_singleton.mp ha).symm

theorem markupAll_append (style : RenderStyle) (a b : List Markup) :
    markupAll style (a ++ b) = markupAll style a ++ markupAll style b := by
  induction a with
  | nil => simp [markupAll]
  | cons m r ih => simp [markupAll, ih]

end Render

end LinkEmbed
