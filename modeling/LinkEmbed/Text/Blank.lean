/-!
# White space

The characters with the Unicode `White_Space` property, and trimming by them. Trimming at the end leaves
nothing exactly when every element may go (`dropTrailing_eq_nil_iff`).
-/

namespace LinkEmbed.Text

/-- The 25 characters with the Unicode property `White_Space`. -/
def isSpace (c : Char) : Bool :=
  let n := c.toNat
  (9 ≤ n && n ≤ 13) || n == 0x20 || n == 0x85 || n == 0xA0 || n == 0x1680 ||
    (0x2000 ≤ n && n ≤ 0x200A) || n == 0x2028 || n == 0x2029 || n == 0x202F || n == 0x205F ||
    n == 0x3000

/-- A list without the elements at its end that satisfy `p`. -/
def dropTrailing {α : Type u} (p : α → Bool) : List α → List α
  | [] => []
  | a :: r =>
    match dropTrailing p r with
    | [] => if p a then [] else [a]
    | kept => a :: kept

/-- Drop white space at both ends of a list of characters. -/
def trimChars (cs : List Char) : List Char :=
  dropTrailing isSpace (cs.dropWhile isSpace)

/-- Drop white space at both ends. -/
def trim (s : String) : String :=
  String.ofList (trimChars s.toList)

/-- Every character is white space; in particular the empty text is blank. -/
def isBlank (s : String) : Bool :=
  s.toList.all isSpace

/-- The trimmed text, unless nothing is left of it. -/
def nonBlank (s : String) : Option String :=
  match trimChars s.toList with
  | [] => none
  | cs => some (String.ofList cs)

theorem dropTrailing_eq_nil_iff {α : Type u} {p : α → Bool} {l : List α} :
    dropTrailing p l = [] ↔ l.all p = true := by
  induction l with
  | nil => simp [dropTrailing]
  | cons a r ih =>
    cases h : dropTrailing p r with
    | nil =>
      have hr := ih.1 h
      by_cases ha : p a = true <;> simp [dropTrailing, h, ha, hr]
    | cons b t =>
      have hr : ¬ r.all p = true := fun hp => by simp [ih.2 hp] at h
      simp only [dropTrailing, h, List.all_cons, Bool.and_eq_true]
      exact ⟨fun hc => by simp at hc, fun hc => absurd hc.2 hr⟩

end LinkEmbed.Text
