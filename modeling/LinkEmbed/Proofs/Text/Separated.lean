import LinkEmbed.Text.Literal

/-!
# Texts that can be taken apart

What is written one part after another can be read again when the character between the parts stands in none of
them.

* `Text.append_inj_of_stop` — a part that ends at the first stop is known apart from what is behind it.
* `Text.splitWhere_intercalate` — splitting at a character undoes joining with it.
* `Text.intercalate_injective`, `Text.mem_of_mem_intercalate` — parts are known by what they make together, and
  nothing stands in it but what stands in them.
* `Text.hexDigits_injective`, `Text.isAlphanum_of_mem_hexDigits` — numbers are known by their hexadecimal digits.
-/

namespace LinkEmbed.Text

variable {α : Type}

/-- A list that is empty or begins with an element at which something stops. -/
def StopsAt (stop : α → Bool) (l : List α) : Prop := ∀ a ∈ l.head?, stop a = true

@[simp] theorem stopsAt_nil (stop : α → Bool) : StopsAt stop [] := by simp [StopsAt]

@[simp] theorem stopsAt_cons (stop : α → Bool) (a : α) (l : List α) :
    StopsAt stop (a :: l) ↔ stop a = true := by
  simp [StopsAt]

/-- What is checked for each of some characters holds of them. -/
theorem forall_of_all {p : α → Prop} [DecidablePred p] {l : List α}
    (h : (l.all fun a => decide (p a)) = true) : ∀ a ∈ l, p a := by
  simpa [List.all_eq_true] using h

/-- What does not stand in a list is none of its members. -/
theorem beq_eq_false_of_not_mem [BEq α] [LawfulBEq α] {a b : α} {l : List α} (hb : b ∉ l) (ha : a ∈ l) :
    (a == b) = false := by
  refine beq_eq_false_iff_ne.mpr ?_
  rintro rfl
  exact hb ha

/-- A list up to its first stop, and what is behind. -/
theorem takeWhile_append_of_stop {stop : α → Bool} {a b : List α} (ha : ∀ x ∈ a, stop x = false)
    (hb : StopsAt stop b) : (a ++ b).takeWhile (fun x => !stop x) = a := by
  have hpass : ∀ x ∈ a, (!stop x) = true := fun x hx => by simp [ha x hx]
  rw [List.takeWhile_append_of_pos hpass]
  cases b with
  | nil => simp
  | cons y r => simp [(stopsAt_cons stop y r).mp hb]

/-- Two ways to take a list apart at its first stop are the same. -/
theorem append_inj_of_stop {stop : α → Bool} {a b c d : List α} (ha : ∀ x ∈ a, stop x = false)
    (hc : ∀ x ∈ c, stop x = false) (hb : StopsAt stop b) (hd : StopsAt stop d) (h : a ++ b = c ++ d) :
    a = c ∧ b = d := by
  have hac : a = c := by
    rw [← takeWhile_append_of_stop ha hb, h, takeWhile_append_of_stop hc hd]
  subst hac
  exact ⟨rfl, List.append_cancel_left h⟩

/-! ## Splitting -/

/-- Without a separator there is one part. -/
theorem splitWhere_of_none {p : α → Bool} {l : List α} (h : ∀ x ∈ l, p x = false) : splitWhere p l = [l] := by
  induction l with
  | nil => rfl
  | cons a r ih =>
    rw [splitWhere, ih fun x hx => h x (List.mem_cons_of_mem a hx)]
    simp [h a List.mem_cons_self]

/-- A first part ends at the first separator. -/
theorem splitWhere_append_cons {p : α → Bool} {l : List α} {s : α} {r : List α} (h : ∀ x ∈ l, p x = false)
    (hs : p s = true) : splitWhere p (l ++ s :: r) = l :: splitWhere p r := by
  induction l with
  | nil => simp [splitWhere, hs]
  | cons a l ih =>
    rw [List.cons_append, splitWhere, ih fun x hx => h x (List.mem_cons_of_mem a hx)]
    simp [h a List.mem_cons_self]

/-- Splitting undoes joining. -/
theorem splitWhere_intercalate {p : α → Bool} {s : α} {ls : List (List α)} (hs : p s = true)
    (h : ∀ l ∈ ls, ∀ x ∈ l, p x = false) (hne : ls ≠ []) : splitWhere p ([s].intercalate ls) = ls := by
  induction ls with
  | nil => exact absurd rfl hne
  | cons l rest ih =>
    have hl := h l List.mem_cons_self
    cases rest with
    | nil =>
      -- The last list has no separator behind it.
      simpa using splitWhere_of_none hl
    | cons m rest =>
      have hrest := ih (fun l' hl' => h l' (List.mem_cons_of_mem l hl')) (List.cons_ne_nil m rest)
      rw [List.intercalate_cons_cons, List.append_assoc, List.singleton_append,
        splitWhere_append_cons hl hs, hrest]

/-- Parts without the character between them are known by what they make together. -/
theorem intercalate_injective [DecidableEq α] {s : α} {ls ms : List (List α)} (hl : ∀ l ∈ ls, s ∉ l)
    (hm : ∀ m ∈ ms, s ∉ m) (hls : ls ≠ []) (hms : ms ≠ [])
    (h : [s].intercalate ls = [s].intercalate ms) : ls = ms := by
  rw [← List.splitOn_intercalate s hl hls, h, List.splitOn_intercalate s hm hms]

/-- In what is joined there are the parts and the separator. -/
theorem mem_of_mem_intercalate {s x : α} {ls : List (List α)} (h : x ∈ [s].intercalate ls) :
    x = s ∨ ∃ l ∈ ls, x ∈ l := by
  induction ls with
  | nil => simp at h
  | cons l rest ih =>
    cases rest with
    | nil => exact Or.inr ⟨l, List.mem_cons_self, by simpa using h⟩
    | cons m rest =>
      rw [List.intercalate_cons_cons, List.append_assoc, List.mem_append, List.singleton_append,
        List.mem_cons] at h
      -- In the first part, the separator behind it, or further back.
      rcases h with hl | rfl | hrest
      · exact Or.inr ⟨l, List.mem_cons_self, hl⟩
      · exact Or.inl rfl
      · exact (ih hrest).imp id fun ⟨k, hk, hx⟩ => ⟨k, List.mem_cons_of_mem l hk, hx⟩

/-- Joining what is joined already. -/
theorem intercalate_append {s : α} {ls ms : List (List α)} (hls : ls ≠ []) (hms : ms ≠ []) :
    [s].intercalate (ls ++ ms) = [s].intercalate ls ++ s :: [s].intercalate ms := by
  induction ls with
  | nil => exact absurd rfl hls
  | cons l rest ih =>
    cases rest with
    | nil => rw [List.singleton_append, List.intercalate_cons_of_ne_nil hms]; simp
    | cons k rest =>
      rw [List.cons_append, List.cons_append, List.intercalate_cons_cons, ← List.cons_append,
        ih (List.cons_ne_nil k rest), List.intercalate_cons_cons]
      simp

/-- A list of which every member can be mapped keeps its length. -/
theorem length_of_mapM {β : Type} {f : α → Option β} {l : List α} {r : List β} (h : l.mapM f = some r) :
    r.length = l.length := by
  induction l generalizing r with
  | nil => simp_all
  | cons a l ih =>
    rw [List.mapM_cons] at h
    obtain ⟨b, -, h⟩ := Option.bind_eq_some_iff.mp h
    obtain ⟨rest, hrest, h⟩ := Option.bind_eq_some_iff.mp h
    obtain rfl := Option.some.inj h
    rw [List.length_cons, List.length_cons, ih hrest]

/-! ## Hexadecimal digits -/

/-- Sixteen digits, and no two of them the same. -/
theorem digitChar_injective {m n : Nat} (hm : m < 16) (hn : n < 16) (h : m.digitChar = n.digitChar) : m = n := by
  have hall : ∀ i : Fin 16, ∀ j : Fin 16, i.val.digitChar = j.val.digitChar → i.val = j.val := by decide
  exact hall ⟨m, hm⟩ ⟨n, hn⟩ h

theorem hexDigits_ne_nil (n : Nat) : hexDigits n ≠ [] := Nat.toDigits_ne_nil

/-- A digit has no place outside letters and digits. -/
theorem isAlphanum_of_mem_hexDigits {n : Nat} {c : Char} (h : c ∈ hexDigits n) : c.isAlphanum = true := by
  have hdigit : ∀ i : Fin 16, i.val.digitChar.isAlphanum = true := by decide
  unfold hexDigits at h
  induction n using Nat.strongRecOn with
  | ind n ih =>
    rw [Nat.toDigits_eq_if (by decide : 1 < 16)] at h
    split at h
    next hn =>
      obtain rfl := List.mem_singleton.mp h
      exact hdigit ⟨n, hn⟩
    next hn =>
      rcases List.mem_append.mp h with hfront | hlast
      · exact ih (n / 16) (by omega) hfront
      · obtain rfl := List.mem_singleton.mp hlast
        exact hdigit ⟨n % 16, by omega⟩

/-- A number is known by its digits. -/
theorem hexDigits_injective {m n : Nat} (h : hexDigits m = hexDigits n) : m = n := by
  unfold hexDigits at h
  -- The last digits agree, and so do the numbers in front of them, which are smaller.
  induction m using Nat.strongRecOn generalizing n with
  | ind m ih =>
    rw [Nat.toDigits_eq_if (by decide : 1 < 16), Nat.toDigits_eq_if (n := n) (by decide : 1 < 16)] at h
    split at h <;> split at h
    next hm hn => exact digitChar_injective hm hn (List.singleton_inj.mp h)
    next hm hn => simpa using (congrArg List.length h)
    next hm hn => simpa using (congrArg List.length h)
    next hm hn =>
      obtain ⟨hfront, hlast⟩ := List.append_inj' h rfl
      have hdiv := ih (m / 16) (by omega) hfront
      have hmod := digitChar_injective (by omega) (by omega) (List.singleton_inj.mp hlast)
      omega

end LinkEmbed.Text
