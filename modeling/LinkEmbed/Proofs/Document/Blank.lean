import LinkEmbed.Document.Basic
import LinkEmbed.Proofs.Properties.Shown

/-!
# Documents without their texts

A document with every text in it emptied: its own texts, destinations and titles, and the texts that are values of
properties or stand in embeds. Two documents have the same blank when they differ in what their texts say and in
nothing else.

* `Properties.merge_blank`, `Properties.ofList_blank` — emptying goes through all that is done with properties.
* `Properties.shownNames_blank` — it does not change which of them show.
-/

namespace LinkEmbed

/-! ## Properties -/

/-- The value, without what it says if it is a text. -/
def Scalar.blank : Scalar → Scalar
  | .text _ => .text ""
  | v => v

theorem Scalar.isShown_blank (v : Scalar) : v.blank.isShown = v.isShown := by
  cases v <;> rfl

theorem Scalar.ofText?_map_blank (s : Option String) : ofText? (s.map fun _ => "") = (ofText? s).blank := by
  cases s <;> rfl

/-- Empty the values of a list of entries. -/
def blankEntries (es : List (String × Scalar)) : List (String × Scalar) := es.map fun e => (e.1, e.2.blank)

theorem entryNames_blankEntries (es : List (String × Scalar)) : entryNames (blankEntries es) = entryNames es := by
  rw [blankEntries, entryNames, List.map_map]
  rfl

/-- What is found under a name is the emptied value. -/
theorem lookup_blankEntries (k : String) (es : List (String × Scalar)) :
    (blankEntries es).lookup k = (es.lookup k).map Scalar.blank := by
  induction es with
  | nil => rfl
  | cons e r ih =>
    obtain ⟨name, v⟩ := e
    have hcons : blankEntries ((name, v) :: r) = (name, v.blank) :: blankEntries r := rfl
    rw [hcons, lookup_cons_eq, lookup_cons_eq, ih]
    by_cases hk : k = name
    · rw [if_pos hk, if_pos hk]
      rfl
    · rw [if_neg hk, if_neg hk]

/-- Values may be emptied before an entry is written or after. -/
theorem blankEntries_assignEntry (name : String) (v : Scalar) (es : List (String × Scalar)) :
    blankEntries (assignEntry name v es) = assignEntry name v.blank (blankEntries es) := by
  induction es with
  | nil => rfl
  | cons e r ih =>
    obtain ⟨n, w⟩ := e
    have hcons : blankEntries ((n, w) :: r) = (n, w.blank) :: blankEntries r := rfl
    rw [hcons, assignEntry, assignEntry]
    by_cases hn : n = name
    · rw [if_pos hn, if_pos hn]
      rfl
    · rw [if_neg hn, if_neg hn, ← ih]
      rfl

namespace Properties

/-- The properties with the values emptied. -/
def blank (p : Properties) : Properties :=
  ⟨blankEntries p.entries, (entryNames_blankEntries p.entries).symm ▸ p.distinct⟩

theorem names_blank (p : Properties) : p.blank.names = p.names := entryNames_blankEntries p.entries

theorem get?_blank (p : Properties) (k : String) : p.blank.get? k = (p.get? k).map Scalar.blank :=
  lookup_blankEntries k p.entries

/-- A text stays a text. -/
theorem getText?_blank (p : Properties) (k : String) : p.blank.getText? k = (p.getText? k).map fun _ => "" := by
  rw [getText?, getText?, get?_blank]
  cases p.get? k with
  | none => rfl
  | some v => cases v <;> rfl

/-- Which properties show depends on the kind of their values and not on what texts say. -/
theorem shownNames_blank (p : Properties) : p.blank.shownNames = p.shownNames := by
  rw [shownNames_eq, shownNames_eq, names_blank]
  simp only [get?_blank, Option.any_map, Scalar.isShown_blank]

theorem set_blank (p : Properties) (name : String) (v : Scalar) : (p.set name v).blank = p.blank.set name v.blank :=
  ext (blankEntries_assignEntry name v p.entries)

/-- Emptying goes through writing entries one after another. -/
theorem setAll_blank (p : Properties) (es : List (String × Scalar)) :
    (p.setAll es).blank = p.blank.setAll (blankEntries es) := by
  induction es generalizing p with
  | nil => rfl
  | cons e r ih =>
    have hr := ih (p.set e.1 e.2)
    rw [set_blank] at hr
    exact hr

theorem merge_blank (p q : Properties) : (p.merge q).blank = p.blank.merge q.blank := p.setAll_blank q.entries

theorem ofList_blank (es : List (String × Scalar)) : (ofList es).blank = ofList (blankEntries es) :=
  setAll_blank empty es

end Properties

/-! ## Markup -/

namespace Markup

mutual

/-- The node with its texts emptied; a comment stays. -/
def blank : Markup → Markup
  | .element tag p children => .element tag p.blank (blankAll children)
  | .text _ => .text ""
  | .comment s => .comment s

/-- Nodes with their texts emptied. -/
def blankAll : List Markup → List Markup
  | [] => []
  | m :: r => blank m :: blankAll r

end

end Markup

/-! ## Documents -/

/-- The embed with its texts emptied. -/
def Embed.blank (e : Embed) : Embed := ⟨e.tag, e.properties.blank, Markup.blankAll e.children⟩

/-- What a link says, without the destination, the title, the hint and the place in the source. -/
def Anchor.blank (a : Anchor) : Anchor where
  url := ""
  title := a.title.map fun _ => ""
  properties := a.properties.blank
  embed := a.embed.map Embed.blank

/-- What another node says, without its literal text and its place in the source. -/
def Generic.blank (info : Generic) : Generic where
  kind := info.kind
  value := info.value.map fun _ => ""
  properties := info.properties.blank

namespace Node

mutual

/-- The node with its texts emptied. -/
def blank : Node → Node
  | .paragraph _ c => .paragraph none (blankAll c)
  | .link a c => .link a.blank (blankAll c)
  | .text _ _ => .text none ""
  | .generic info c => .generic info.blank (blankAll c)

/-- Nodes with their texts emptied. -/
def blankAll : List Node → List Node
  | [] => []
  | n :: r => blank n :: blankAll r

end

end Node

/-- The document with its texts emptied. -/
def Document.blank (d : Document) : Document := ⟨Node.blankAll d.nodes, none⟩

end LinkEmbed
