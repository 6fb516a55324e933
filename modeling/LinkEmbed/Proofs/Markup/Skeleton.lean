import LinkEmbed.Proofs.Markup.Reader
import LinkEmbed.Proofs.Properties.Shown

/-!
# The skeleton of a text

What is left of markup without character data and without the values of attributes: tags with the names of their
attributes, and comments. A grammar says which characters spell a skeleton. What stands in a text or in a value has no
say in it.

* `Skeleton.spells_escapeText`, `Skeleton.spellsAttribute_oneAttribute` — text spells nothing, and an attribute its
  name, whatever they say.
* `Skeleton.spells_markupAll` — written markup spells the skeleton of its tree.
* `Markup.wellNested_tagsAll` — in the skeleton of a tree all tags are well nested.
-/

namespace LinkEmbed

namespace Skeleton

/-- A tag without the values of its attributes, or a comment. -/
inductive Tag where
  | opening (name : String) (attributes : List String)
  | closing (name : String)
  | comment (text : String)
deriving DecidableEq, Repr

/-! ## Plain names -/

/-- A name without blanks, quotation marks, brackets, equals signs and slashes. -/
def IsPlain (s : String) : Prop := s.toList.all Reader.isNameChar

instance : DecidablePred IsPlain := fun s => inferInstanceAs (Decidable (s.toList.all Reader.isNameChar = true))

end Skeleton

/-- Properties with plain names. -/
def Properties.IsPlain (p : Properties) : Prop := ∀ k ∈ p.names, Skeleton.IsPlain k

instance : DecidablePred Properties.IsPlain := fun p =>
  inferInstanceAs (Decidable (∀ k ∈ p.names, Skeleton.IsPlain k))

namespace Properties

theorem isPlain_empty : empty.IsPlain := nofun

theorem isPlain_ofList {es : List (String × Scalar)} (h : (entryNames es).Nodup)
    (hplain : ∀ k ∈ entryNames es, Skeleton.IsPlain k) : (ofList es).IsPlain := by
  rw [IsPlain, names_ofList h]
  exact hplain

/-- Merging brings no new names in. -/
theorem isPlain_merge {p q : Properties} (hp : p.IsPlain) (hq : q.IsPlain) : (p.merge q).IsPlain := by
  intro k hk
  rw [names_merge, List.mem_append, List.mem_filter] at hk
  rcases hk with hk | ⟨hk, -⟩
  · exact hp k hk
  · exact hq k hk

end Properties

namespace Skeleton

/-! ## Spelling -/

/-- An attribute: a blank and its name, and maybe a value between quotation marks, which does not count. -/
inductive SpellsAttribute (k : String) : List Char → Prop where
  | bare : SpellsAttribute k (' ' :: k.toList)
  | quoted {value : List Char} :
      (∀ c ∈ value, c ≠ '"') → SpellsAttribute k (' ' :: k.toList ++ '=' :: '"' :: value ++ ['"'])

/-- A start tag up to its closing bracket. -/
inductive SpellsStart (tag : String) : List Char → List String → Prop where
  | name : IsPlain tag → SpellsStart tag ('<' :: tag.toList) []
  | more {start cs : List Char} {names : List String} {k : String} :
      SpellsStart tag start names → IsPlain k → SpellsAttribute k cs → SpellsStart tag (start ++ cs) (names ++ [k])

/-- Tags and comments with character data between them, which does not count. -/
inductive Spells : List Char → List Tag → Prop where
  | nil : Spells [] []
  | data {c : Char} {cs : List Char} {us : List Tag} : c ≠ '<' → Spells cs us → Spells (c :: cs) us
  | opening {tag : String} {names : List String} {start cs : List Char} {us : List Tag} (style : RenderStyle) :
      SpellsStart tag start names → Spells cs us →
        Spells (start ++ Render.closeVoid style ++ cs) (.opening tag names :: us)
  | closing {tag : String} {cs : List Char} {us : List Tag} :
      IsPlain tag → Spells cs us → Spells (Render.closeTag tag ++ cs) (.closing tag :: us)
  | comment {s : String} {cs : List Char} {us : List Tag} :
      ¬ "-->".toList <:+: s.toList → Spells cs us →
        Spells ("<!--".toList ++ s.toList ++ "-->".toList ++ cs) (.comment s :: us)

/-- What is spelled one behind the other. -/
theorem Spells.append {a b : List Char} {us vs : List Tag} (ha : Spells a us) (hb : Spells b vs) :
    Spells (a ++ b) (us ++ vs) := by
  induction ha with
  | nil => exact hb
  | data hc _ ih => exact .data hc ih
  | opening style hstart _ ih =>
    rw [List.append_assoc]
    exact .opening style hstart ih
  | closing htag _ ih =>
    rw [List.append_assoc]
    exact .closing htag ih
  | comment hs _ ih =>
    rw [List.append_assoc]
    exact .comment hs ih

/-- Text adds nothing, whatever it says. -/
theorem spells_escapeText (s : String) : Spells (Render.escapeText s) [] := by
  have hall : ∀ c ∈ Render.escapeText s, c ≠ '<' := fun c hc => (Render.mem_escapeText hc).1
  generalize Render.escapeText s = cs at hall
  induction cs with
  | nil => exact .nil
  | cons c cs ih => exact .data (hall c List.mem_cons_self) (ih fun d hd => hall d (List.mem_cons_of_mem c hd))

/-- A comment without its end inside spells itself. -/
theorem spells_comment {s : String} (h : ¬ "-->".toList <:+: s.toList) :
    Spells ("<!--".toList ++ s.toList ++ "-->".toList) [.comment s] := by
  have hall := Spells.comment h .nil
  rwa [List.append_nil] at hall

/-! ## Tags -/

/-- An attribute that shows is spelled by its name, whatever its value. -/
theorem spellsAttribute_oneAttribute {v : Scalar} (hv : v.isShown) (k : String) :
    SpellsAttribute k (Render.oneAttribute k v) := by
  obtain ⟨text, htext⟩ := Option.isSome_iff_exists.mp hv
  rw [Render.oneAttribute, htext]
  dsimp only
  split
  · exact .bare
  · exact .quoted fun c hc => Render.mem_escapeValue hc

/-- A start tag is spelled with the names of the properties that show, in order. -/
theorem SpellsStart.attributes {tag : String} {start : List Char} {names : List String}
    (h : SpellsStart tag start names) {p : Properties} (hp : p.IsPlain) :
    SpellsStart tag (start ++ Render.attributes p) (names ++ p.shownNames) := by
  have hshown : ∀ e ∈ p.shown, IsPlain e.1 ∧ e.2.isShown := by
    intro e he
    obtain ⟨hmem, hv⟩ := List.mem_filter.mp he
    exact ⟨hp e.1 (List.mem_map_of_mem hmem), hv⟩
  rw [Properties.attributes_eq_shown, Properties.shownNames]
  -- Only properties that show are written, so the induction is on these.
  generalize p.shown = es at hshown
  induction es generalizing start names with
  | nil => simpa [entryNames] using h
  | cons e r ih =>
    obtain ⟨hk, hv⟩ := hshown e List.mem_cons_self
    have hfirst := h.more hk (spellsAttribute_oneAttribute hv e.1)
    have hr := ih hfirst fun d hd => hshown d (List.mem_cons_of_mem e hd)
    simpa [entryNames] using hr

/-- So is one from its bracket on. -/
theorem spellsStart_openTag {tag : String} (htag : IsPlain tag) {p : Properties} (hp : p.IsPlain) :
    SpellsStart tag (Render.openTag tag p) p.shownNames := (SpellsStart.name htag).attributes hp

/-! ## Trees -/

/-- An element with its content: what it contains does not count if it is void. -/
def enclosed (tag : String) (names : List String) (inner : List Tag) : List Tag :=
  .opening tag names :: if Render.isVoidTag tag then [] else inner ++ [.closing tag]

/-- Every start tag has its end tag, unless the element is void, and every end tag its start tag. -/
inductive WellNested : List Tag → Prop where
  | nil : WellNested []
  | comment (text : String) {rest : List Tag} : WellNested rest → WellNested (.comment text :: rest)
  | element (tag : String) (names : List String) {inner rest : List Tag} :
      WellNested inner → WellNested rest → WellNested (enclosed tag names inner ++ rest)

/-- Well nested tags one behind the other are well nested. -/
theorem WellNested.append {us vs : List Tag} (hu : WellNested us) (hv : WellNested vs) : WellNested (us ++ vs) := by
  induction hu with
  | nil => exact hv
  | comment text _ ih => exact .comment text ih
  | element tag names hinner _ _ ih =>
    rw [List.append_assoc]
    exact .element tag names hinner ih

/-- So is an element around well nested tags. -/
theorem WellNested.enclosed {inner : List Tag} (h : WellNested inner) (tag : String) (names : List String) :
    WellNested (enclosed tag names inner) := by
  have hone := WellNested.element tag names h .nil
  rwa [List.append_nil] at hone

/-- An element around a piece of text. -/
theorem Spells.element {tag : String} (htag : IsPlain tag) (hvoid : ¬ Render.isVoidTag tag) {p : Properties}
    (hp : p.IsPlain) {cs : List Char} {us : List Tag} (h : Spells cs us) :
    Spells (Render.openTag tag p ++ '>' :: cs ++ Render.closeTag tag) (enclosed tag p.shownNames us) := by
  have hinner := h.append (Spells.closing htag .nil)
  have hall := Spells.opening .html (spellsStart_openTag htag hp) hinner
  rw [enclosed, if_neg hvoid]
  simpa [Render.closeVoid, RenderStyle.html] using hall

/-- A void element has its start tag only, in either style, whatever its content. -/
theorem spells_voidElement {tag : String} (htag : IsPlain tag) (hvoid : Render.isVoidTag tag) {p : Properties}
    (hp : p.IsPlain) (style : RenderStyle) (us : List Tag) :
    Spells (Render.openTag tag p ++ Render.closeVoid style) (enclosed tag p.shownNames us) := by
  have hall := Spells.opening style (spellsStart_openTag htag hp) .nil
  rw [enclosed, if_pos hvoid]
  rwa [List.append_nil] at hall

end Skeleton

namespace Markup

open Skeleton

mutual

/-- The skeleton of a node. -/
def tags : Markup → List Tag
  | .element tag p children => enclosed tag p.shownNames (tagsAll children)
  | .text _ => []
  | .comment s => [.comment s]

/-- The skeleton of a list of nodes. -/
def tagsAll : List Markup → List Tag
  | [] => []
  | m :: r => tags m ++ tagsAll r

end

mutual

/-- A node whose tags and attributes have plain names, and without the end of a comment inside one, at any
depth. -/
def IsPlain : Markup → Prop
  | .element tag p children => Skeleton.IsPlain tag ∧ p.IsPlain ∧ AllPlain children
  | .text _ => True
  | .comment s => ¬ "-->".toList <:+: s.toList

/-- Such nodes. -/
def AllPlain : List Markup → Prop
  | [] => True
  | m :: r => m.IsPlain ∧ AllPlain r

end

mutual

/-- The tags of a node are well nested. -/
theorem wellNested_tags (m : Markup) : WellNested m.tags := by
  cases m with
  | element tag p children => exact (wellNested_tagsAll children).enclosed tag p.shownNames
  | text s => exact .nil
  | comment s => exact .comment s .nil

theorem wellNested_tagsAll (ms : List Markup) : WellNested (tagsAll ms) := by
  cases ms with
  | nil => exact .nil
  | cons m r => exact (wellNested_tags m).append (wellNested_tagsAll r)

end

end Markup

namespace Skeleton

mutual

/-- A node with plain names spells its skeleton. -/
theorem spells_markup (style : RenderStyle) {m : Markup} (h : m.IsPlain) : Spells (Render.markup style m) m.tags := by
  match m, h with
  | .element tag p children, ⟨htag, hp, hchildren⟩ =>
    unfold Render.markup
    split
    next hvoid => exact spells_voidElement htag hvoid hp style (Markup.tagsAll children)
    next hvoid => exact (spells_markupAll style hchildren).element htag hvoid hp
  | .text s, _ => exact spells_escapeText s
  | .comment s, h => exact spells_comment h

/-- So do nodes. -/
theorem spells_markupAll (style : RenderStyle) {ms : List Markup} (h : Markup.AllPlain ms) :
    Spells (Render.markupAll style ms) (Markup.tagsAll ms) := by
  match ms, h with
  | [], _ => exact Spells.nil
  | m :: r, ⟨hm, hr⟩ => exact (spells_markup style hm).append (spells_markupAll style hr)

end

end Skeleton

end LinkEmbed
