import LinkEmbed.Text.Blank
import Mathlib.Data.List.TakeWhile

/-!
# Trimmed texts

Trimming takes away white space at both ends and nothing else.

* `Text.trim_eq_iff` — `trim s = t` says that `s` is `t` with white space around it, and that `t` neither begins nor
  ends with any.
* `Text.nonBlank_eq_some_iff`, `Text.nonBlank_eq_none_iff` — a text has something left if it is not blank.
* `Text.findSome?_nonBlank_eq_some_iff` — the first text of a list that is not blank, and what is left of it.
* `Text.isProper_of_nonBlank` — what is left is not empty, and has no white space around it.
-/

namespace LinkEmbed.Text

variable {α : Type} {p : α → Bool}

/-! ## White space at the end -/

/-- What is dropped at the end is white space, and what is in front of it does not end with any. -/
theorem exists_dropTrailing (p : α → Bool) (l : List α) :
    ∃ after, l = dropTrailing p l ++ after ∧ after.all p = true ∧ ∀ a ∈ (dropTrailing p l).getLast?, p a = false := by
  induction l with
  | nil => exact ⟨[], rfl, rfl, by simp [dropTrailing]⟩
  | cons a r ih =>
    obtain ⟨after, hr, hafter, hlast⟩ := ih
    -- An element is dropped only if everything behind it is, too.
    cases hkept : dropTrailing p r with
    | nil =>
      rw [hkept, List.nil_append] at hr
      cases ha : p a with
      | true =>
        have hcons : dropTrailing p (a :: r) = [] := by simp [dropTrailing, hkept, ha]
        refine ⟨a :: r, by rw [hcons, List.nil_append], ?_, by simp [hcons]⟩
        rw [List.all_cons, ha, hr, hafter, Bool.and_self]
      | false =>
        have hcons : dropTrailing p (a :: r) = [a] := by simp [dropTrailing, hkept, ha]
        exact ⟨after, by rw [hcons, hr, List.singleton_append], hafter, by simp [hcons, ha]⟩
    | cons b s =>
      have hcons : dropTrailing p (a :: r) = a :: dropTrailing p r := by simp only [dropTrailing, hkept]
      refine ⟨after, by rw [hcons, List.cons_append, ← hr], hafter, ?_⟩
      rwa [hcons, hkept, List.getLast?_cons_cons, ← hkept]

/-- White space behind a list that does not end with any goes. -/
theorem dropTrailing_append {l after : List α} (hl : ∀ a ∈ l.getLast?, p a = false) (hafter : after.all p = true) :
    dropTrailing p (l ++ after) = l := by
  induction l with
  | nil => exact dropTrailing_eq_nil_iff.mpr hafter
  | cons a r ih =>
    cases r with
    | nil =>
      have ha : p a = false := hl a rfl
      rw [List.singleton_append, dropTrailing, dropTrailing_eq_nil_iff.mpr hafter]
      simp [ha]
    | cons b s =>
      have hr := ih fun c hc => hl c (by rwa [List.getLast?_cons_cons])
      rw [List.cons_append, dropTrailing, hr]

/-! ## White space at both ends -/

/-- Characters of which neither the first nor the last is white space. -/
structure IsTight (cs : List Char) : Prop where
  head : ∀ c ∈ cs.head?, isSpace c = false
  last : ∀ c ∈ cs.getLast?, isSpace c = false

theorem IsTight.of_none {cs : List Char} (h : ∀ c ∈ cs, isSpace c = false) : IsTight cs :=
  ⟨fun c hc => h c (List.mem_of_mem_head? hc), fun c hc => h c (List.mem_of_mem_getLast? hc)⟩

/-- A text is another one with white space around it, and the other one has none at its ends. -/
def Trims (s t : String) : Prop :=
  ∃ before after, s.toList = before ++ t.toList ++ after ∧ before.all isSpace = true ∧ after.all isSpace = true ∧
    IsTight t.toList

/-- White space around characters goes. -/
theorem trimChars_append {before cs after : List Char} (hbefore : before.all isSpace = true) (hcs : IsTight cs)
    (hafter : after.all isSpace = true) : trimChars (before ++ cs ++ after) = cs := by
  have hdrop : (before ++ cs ++ after).dropWhile isSpace = (cs ++ after).dropWhile isSpace := by
    rw [List.append_assoc, List.dropWhile_append_of_pos (List.all_eq_true.mp hbefore)]
  rw [trimChars, hdrop]
  cases cs with
  | nil =>
    rw [List.nil_append, List.dropWhile_eq_nil_iff.mpr (List.all_eq_true.mp hafter)]
    rfl
  | cons c r =>
    have hc : isSpace c = false := hcs.head c rfl
    rw [List.cons_append, List.dropWhile_cons_of_neg (by simp [hc])]
    exact dropTrailing_append hcs.last hafter

/-- Nothing else goes. -/
theorem exists_trimChars (cs : List Char) :
    ∃ before after, cs = before ++ trimChars cs ++ after ∧ before.all isSpace = true ∧ after.all isSpace = true ∧
      IsTight (trimChars cs) := by
  obtain ⟨after, hafter, hspace, hlast⟩ := exists_dropTrailing isSpace (cs.dropWhile isSpace)
  refine ⟨cs.takeWhile isSpace, after, ?_, List.all_takeWhile, hspace, ⟨fun c hc => ?_, hlast⟩⟩
  · rw [List.append_assoc, trimChars, ← hafter, List.takeWhile_append_dropWhile]
  · -- The first character that is left is the first that is no white space.
    have hfirst : (cs.dropWhile isSpace).head? = some c := by
      rw [hafter, List.head?_append, Option.or_eq_some_iff]
      exact Or.inl hc
    have hnot := List.head?_dropWhile_not isSpace cs
    rwa [hfirst] at hnot

/-- A trimmed text is the one with white space around it taken away. -/
theorem trim_eq_iff {s t : String} : trim s = t ↔ Trims s t := by
  constructor
  · rintro rfl
    obtain ⟨before, after, hs, hbefore, hafter, htight⟩ := exists_trimChars s.toList
    exact ⟨before, after, by rwa [trim, String.toList_ofList], hbefore, hafter, by rwa [trim, String.toList_ofList]⟩
  · rintro ⟨before, after, hs, hbefore, hafter, htight⟩
    rw [trim, hs, trimChars_append hbefore htight hafter, String.ofList_toList]

/-- Nothing is left of white space only. -/
theorem trimChars_eq_nil_iff {cs : List Char} : trimChars cs = [] ↔ cs.all isSpace = true := by
  constructor
  · intro hnil
    obtain ⟨before, after, hcs, hbefore, hafter, -⟩ := exists_trimChars cs
    rw [hcs, hnil, List.append_nil, List.all_append, hbefore, hafter, Bool.and_self]
  · intro hall
    have hempty : IsTight [] := ⟨by simp, by simp⟩
    have hpadded : trimChars (cs ++ [] ++ []) = [] := trimChars_append hall hempty rfl
    rwa [List.append_nil, List.append_nil] at hpadded

/-! ## Texts that are not blank -/

/-- A blank text counts as none. -/
theorem nonBlank_eq_none_iff {s : String} : nonBlank s = none ↔ isBlank s = true := by
  rw [isBlank, ← trimChars_eq_nil_iff, nonBlank]
  cases trimChars s.toList <;> simp

/-- A text that is not blank counts as what is left of it when it is trimmed. -/
theorem nonBlank_eq_some_iff {s t : String} : nonBlank s = some t ↔ isBlank s = false ∧ Trims s t := by
  rw [← trim_eq_iff, ← Bool.not_eq_true, ← nonBlank_eq_none_iff, nonBlank, trim]
  cases trimChars s.toList <;> simp

/-- Something is left of a text that is not blank. -/
theorem Trims.ne_empty {s t : String} (h : Trims s t) (hs : isBlank s = false) : t ≠ "" := by
  rintro rfl
  obtain ⟨before, after, heq, hbefore, hafter, -⟩ := h
  rw [isBlank, heq, List.all_append, List.all_append, hbefore, hafter] at hs
  cases hs

/-! ## The first text that is not blank -/

/-- The first of some texts that is not blank, without the white space around it. -/
def IsFirst (texts : List String) (t : String) : Prop :=
  ∃ before s after, texts = before ++ s :: after ∧ (∀ b ∈ before, isBlank b = true) ∧ isBlank s = false ∧ Trims s t

/-- A text that is there and has no white space around it. -/
def IsProper (t : String) : Prop := t ≠ "" ∧ IsTight t.toList

/-- What is left is a text with nothing to trim. -/
theorem isProper_of_nonBlank {s t : String} (h : nonBlank s = some t) : IsProper t := by
  obtain ⟨hs, htrims⟩ := nonBlank_eq_some_iff.mp h
  obtain ⟨-, -, -, -, -, htight⟩ := id htrims
  exact ⟨htrims.ne_empty hs, htight⟩

/-- The first text that is not blank is found, and blank ones are passed over. -/
theorem findSome?_nonBlank_eq_some_iff {texts : List String} {t : String} :
    texts.findSome? nonBlank = some t ↔ IsFirst texts t := by
  rw [List.findSome?_eq_some_iff]
  constructor
  · rintro ⟨before, s, after, htexts, hs, hbefore⟩
    obtain ⟨hblank, htrims⟩ := nonBlank_eq_some_iff.mp hs
    exact ⟨before, s, after, htexts, fun b hb => nonBlank_eq_none_iff.mp (hbefore b hb), hblank, htrims⟩
  · rintro ⟨before, s, after, htexts, hbefore, hblank, htrims⟩
    exact ⟨before, s, after, htexts, nonBlank_eq_some_iff.mpr ⟨hblank, htrims⟩,
      fun b hb => nonBlank_eq_none_iff.mpr (hbefore b hb)⟩

/-- Nothing is found where all texts are blank. -/
theorem findSome?_nonBlank_eq_none_iff {texts : List String} :
    texts.findSome? nonBlank = none ↔ ∀ s ∈ texts, isBlank s = true := by
  simp only [List.findSome?_eq_none_iff, nonBlank_eq_none_iff]

end LinkEmbed.Text
