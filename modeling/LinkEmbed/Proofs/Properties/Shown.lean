import LinkEmbed.Markup.Render
import LinkEmbed.Proofs.Properties.Merge

/-!
# Properties that show

A tag shows all properties but those that are `null` or `false`, each once and in their order.

* `Properties.attributes_eq_shown` — what is written for properties is written for those that show.
* `Properties.mem_shown`, `Properties.shownNames_eq` — which these are, and in which order.
-/

namespace LinkEmbed

/-- Whether a property with this value shows in a tag. -/
def Scalar.isShown (v : Scalar) : Bool := v.attributeText?.isSome

/-- All values show but two. -/
theorem Scalar.isShown_iff {v : Scalar} : v.isShown = true ↔ v ≠ .null ∧ v ≠ .bool false := by
  rw [isShown, Option.isSome_iff_ne_none, ne_eq, attributeText?_eq_none_iff, not_or]

namespace Properties

/-- The properties that show in a tag, in order. -/
def shown (p : Properties) : List (String × Scalar) := p.entries.filter fun e => e.2.isShown

/-- Nothing is written for a property that does not show. -/
theorem attributes_eq_shown (p : Properties) :
    Render.attributes p = p.shown.flatMap fun e => Render.oneAttribute e.1 e.2 := by
  unfold Render.attributes shown
  induction p.entries with
  | nil => rfl
  | cons e r ih =>
    rw [List.flatMap_cons, ih, List.filter_cons]
    by_cases h : e.2.isShown
    · rw [if_pos h, List.flatMap_cons]
    · have hnone : e.2.attributeText? = none := by simpa [Scalar.isShown] using h
      rw [if_neg h, Render.oneAttribute, hnone, List.nil_append]

/-- A property shows with its own value. -/
theorem mem_shown {p : Properties} {k : String} {v : Scalar} :
    (k, v) ∈ p.shown ↔ p.get? k = some v ∧ v ≠ .null ∧ v ≠ .bool false := by
  rw [shown, List.mem_filter, get?_eq_some_iff, Scalar.isShown_iff]

/-- Their names. -/
def shownNames (p : Properties) : List String := entryNames p.shown

/-- The names that show keep their order. -/
theorem shownNames_eq (p : Properties) :
    p.shownNames = p.names.filter fun k => (p.get? k).any Scalar.isShown := by
  rw [names, entryNames, List.filter_map, shownNames, shown]
  refine congrArg (List.map Prod.fst) (List.filter_congr fun e he => ?_)
  have hget : p.get? e.1 = some e.2 := get?_eq_some_iff.mpr he
  simp [hget]

end Properties

end LinkEmbed
