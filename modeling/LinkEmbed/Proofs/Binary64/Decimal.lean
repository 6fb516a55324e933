import LinkEmbed.Binary64.Reader
import LinkEmbed.Proofs.Binary64.Nearest
import LinkEmbed.Proofs.Text.Trimmed

/-!
# Numbers in texts

Which numbers are read from texts, said without the reader: a text of decimal digits is read as the floating point
number nearest to its value, however long it is, and the words for what is no finite number are read as such.

* `Binary64.isNearest_ofScientific` — scaling without an exponent gives the nearest number.
* `Binary64.SpellsInteger.exists_read?` — a text that spells an integer is read as the number nearest to it.
* `Binary64.SpellsNonFinite.exists_read?` — a text that spells an infinity or no number is read as what it says.
* `Binary64.SpellsInteger.not_isSpace`, `Binary64.SpellsNonFinite.not_isSpace` — such texts have no white space, so
  trimming finds them again between blanks.
-/

namespace LinkEmbed

namespace Binary64

/-! ## Digits -/

/-- The number that decimal digits spell. -/
def digitsValue (ds : List Char) : Nat := Nat.ofDigits 10 (ds.reverse.map digitValue)

/-- Reading digits from the left gives the number that they spell, their last digit counting ones. -/
theorem ofDigits_eq (ds : List Char) : ofDigits ds = digitsValue ds := by
  unfold ofDigits digitsValue
  -- The fold puts the last digit in last, so the induction takes digits off the end.
  induction ds using List.reverseRecOn with
  | nil => rfl
  | append_singleton r d ih =>
    rw [List.foldl_append, List.foldl_cons, List.foldl_nil, ih, List.reverse_append, List.reverse_singleton,
      List.singleton_append, List.map_cons, Nat.ofDigits_cons, Nat.add_comm]

/-- Without an exponent the number read is the one nearest to the integer. The limit on the number of digits is never
in the way: beyond it the nearest number is infinite anyway. -/
theorem isNearest_ofScientific (negative : Bool) (n : Nat) :
    IsNearest (withSign negative n) (ofScientific negative n 0) := by
  unfold ofScientific
  split
  next h =>
    rw [h]
    exact isNearest_zero negative
  next h =>
    dsimp only
    split
    next hlong =>
      -- Far fewer digits would do for a number that is out of reach.
      have hlarge : 10 ^ 40 ≤ n := by
        by_contra hsmall
        have hlength := Nat.toDigits_length 10 n 40 (by decide) (not_le.mp hsmall)
        omega
      exact .infinite (le_trans (by norm_num) hlarge)
    next =>
      rw [if_neg (by omega), if_pos le_rfl]
      have hpower : n * tenPower (0 : Int).toNat = n := Nat.mul_one n
      rw [hpower]
      exact isNearest_ofRatio negative n

/-- A text that spells an integer: digits, at least one, with or without a sign before them. -/
inductive SpellsInteger : List Char → Int → Prop where
  | unsigned {ds : List Char} : ds ≠ [] → (∀ d ∈ ds, d.isDigit) → SpellsInteger ds (digitsValue ds)
  | plus {ds : List Char} : ds ≠ [] → (∀ d ∈ ds, d.isDigit) → SpellsInteger ('+' :: ds) (digitsValue ds)
  | minus {ds : List Char} : ds ≠ [] → (∀ d ∈ ds, d.isDigit) → SpellsInteger ('-' :: ds) (-digitsValue ds)

/-! ## Words -/

/-- The words for what is no finite number, in lower case. -/
def nonFiniteWords : List String := ["inf", "infinity", "nan"]

/-- A text that spells an infinity or what is no number: one of the words in any case, with or without a sign. -/
inductive SpellsNonFinite : List Char → Prop where
  | unsigned {cs : List Char} : String.ofList (cs.map Char.toLower) ∈ nonFiniteWords → SpellsNonFinite cs
  | signed {sign : Char} {cs : List Char} :
      sign = '+' ∨ sign = '-' → String.ofList (cs.map Char.toLower) ∈ nonFiniteWords → SpellsNonFinite (sign :: cs)

/-- Only the characters from `A` to `Z` have another lower case. -/
theorem toLower_of_not_upper {c : Char} (h : c.toNat < 65 ∨ 90 < c.toNat) : c.toLower = c := by
  unfold Char.toLower
  rw [dif_neg]
  rintro ⟨hlower, hupper⟩
  rw [ge_iff_le, UInt32.le_iff_toNat_le] at hlower
  rw [UInt32.le_iff_toNat_le] at hupper
  rcases h with h | h
  · exact absurd h (not_lt.mpr hlower)
  · exact absurd h (not_lt.mpr hupper)

theorem toNat_of_isDigit {d : Char} (h : d.isDigit) : 48 ≤ d.toNat ∧ d.toNat ≤ 57 := by
  simpa [Char.isDigit, UInt32.le_iff_toNat_le] using h

/-- The words begin with one of two letters, so neither with a sign nor with a digit. -/
theorem head_of_word {c : Char} {r : List Char} (h : String.ofList (c :: r) ∈ nonFiniteWords) :
    c = 'i' ∨ c = 'n' := by
  simp only [nonFiniteWords, List.mem_cons, List.not_mem_nil, or_false] at h
  -- One case for each word, whose first letter is there to see.
  rcases h with h | h | h
  · have hlist : c :: r = ['i', 'n', 'f'] := String.ofList_injective h
    exact .inl (List.cons.inj hlist).1
  · have hlist : c :: r = ['i', 'n', 'f', 'i', 'n', 'i', 't', 'y'] := String.ofList_injective h
    exact .inl (List.cons.inj hlist).1
  · have hlist : c :: r = ['n', 'a', 'n'] := String.ofList_injective h
    exact .inr (List.cons.inj hlist).1

/-- No sign is taken off a word. -/
theorem splitSign_of_word {cs : List Char} (h : String.ofList (cs.map Char.toLower) ∈ nonFiniteWords) :
    splitSign cs = (false, cs) := by
  unfold splitSign
  split
  next => exact absurd (head_of_word h) (by decide)
  next => exact absurd (head_of_word h) (by decide)
  next => rfl

/-- A word behind an optional sign is read. -/
theorem read?_word {cs ws : List Char} {negative : Bool} (hsplit : splitSign cs = (negative, ws))
    (hword : String.ofList (ws.map Char.toLower) ∈ nonFiniteWords) :
    ∃ x, read? (String.ofList cs) = some x ∧ x.isFinite = false := by
  unfold read?
  rw [String.toList_ofList, hsplit]
  dsimp only
  simp only [nonFiniteWords, List.mem_cons, List.not_mem_nil, or_false] at hword
  rcases hword with h | h | h <;> rw [h] <;> exact ⟨_, rfl, rfl⟩

/-- The words are read as what they say. -/
theorem SpellsNonFinite.exists_read? {cs : List Char} (h : SpellsNonFinite cs) :
    ∃ x, read? (String.ofList cs) = some x ∧ x.isFinite = false := by
  cases h with
  | unsigned hword => exact read?_word (splitSign_of_word hword) hword
  | signed hsign hword =>
    rcases hsign with rfl | rfl
    · exact read?_word rfl hword
    · exact read?_word rfl hword

theorem bounds_of_isSpace {c : Char} (h : Text.isSpace c = true) : c.toNat < 65 ∨ 90 < c.toNat := by
  simp only [Text.isSpace, Bool.or_eq_true, Bool.and_eq_true, decide_eq_true_eq, beq_iff_eq] at h
  omega

/-- No word has white space in it. -/
theorem SpellsNonFinite.not_isSpace {cs : List Char} (h : SpellsNonFinite cs) {c : Char} (hc : c ∈ cs) :
    Text.isSpace c = false := by
  have hword {ws : List Char} (hws : String.ofList (ws.map Char.toLower) ∈ nonFiniteWords) (hmem : c ∈ ws) :
      Text.isSpace c = false := by
    have hletters : ∀ w ∈ nonFiniteWords, w.toList.all (fun e => !Text.isSpace e) = true := by decide
    have hlower : Text.isSpace c.toLower = false := by
      have hall := hletters _ hws
      rw [String.toList_ofList] at hall
      simpa using List.all_eq_true.mp hall c.toLower (List.mem_map_of_mem hmem)
    -- A blank is no capital letter, so it would be its own lower case and stand in a word.
    by_contra hspace
    rw [Bool.not_eq_false] at hspace
    rw [toLower_of_not_upper (bounds_of_isSpace hspace), hspace] at hlower
    cases hlower
  cases h with
  | unsigned hws => exact hword hws hc
  | signed hsign hws =>
    rcases List.mem_cons.mp hc with rfl | hmem
    · rcases hsign with rfl | rfl <;> decide
    · exact hword hws hmem

/-! ## Integers -/

/-- Digits alone are read without a point and an exponent. -/
theorem readDecimal?_digits (negative : Bool) {ds : List Char} (hne : ds ≠ []) (hds : ∀ d ∈ ds, d.isDigit) :
    readDecimal? negative ds = some (ofScientific negative (digitsValue ds) 0) := by
  have htake : ds.takeWhile Char.isDigit = ds := List.takeWhile_eq_self_iff.mpr hds
  have hdrop : ds.dropWhile Char.isDigit = [] := List.dropWhile_eq_nil_iff.mpr hds
  unfold readDecimal?
  simp [htake, hdrop, hne, readExponent?, ofDigits_eq]

/-- No word begins with a digit. -/
theorem digits_notMem_words {ds : List Char} (hne : ds ≠ []) (hds : ∀ d ∈ ds, d.isDigit) :
    String.ofList (ds.map Char.toLower) ∉ nonFiniteWords := by
  obtain ⟨d, r, rfl⟩ := List.exists_cons_of_ne_nil hne
  have hdigit := hds d List.mem_cons_self
  intro h
  have hlower := toLower_of_not_upper (.inl (show d.toNat < 65 by have := toNat_of_isDigit hdigit; omega))
  rw [List.map_cons, hlower] at h
  rcases head_of_word h with rfl | rfl
  · exact absurd hdigit (by decide)
  · exact absurd hdigit (by decide)

/-- Digits behind an optional sign are read. -/
theorem read?_digits {cs ds : List Char} {negative : Bool} (hsplit : splitSign cs = (negative, ds)) (hne : ds ≠ [])
    (hds : ∀ d ∈ ds, d.isDigit) :
    read? (String.ofList cs) = some (ofScientific negative (digitsValue ds) 0) := by
  have hno := digits_notMem_words hne hds
  unfold read?
  rw [String.toList_ofList, hsplit]
  dsimp only
  split
  -- None of the words, so it goes on as a decimal number.
  next h => exact absurd (h ▸ by decide) hno
  next h => exact absurd (h ▸ by decide) hno
  next h => exact absurd (h ▸ by decide) hno
  next => exact readDecimal?_digits negative hne hds

theorem splitSign_of_digit {d : Char} (hd : d.isDigit) (r : List Char) : splitSign (d :: r) = (false, d :: r) := by
  unfold splitSign
  split
  next h =>
    obtain ⟨rfl, -⟩ := List.cons.inj h
    exact absurd hd (by decide)
  next h =>
    obtain ⟨rfl, -⟩ := List.cons.inj h
    exact absurd hd (by decide)
  next => rfl

theorem isSpace_of_isDigit {d : Char} (h : d.isDigit) : Text.isSpace d = false := by
  have hbounds := toNat_of_isDigit h
  simp only [Text.isSpace, Bool.or_eq_false_iff, Bool.and_eq_false_iff, decide_eq_false_iff_not, beq_eq_false_iff_ne]
  omega

/-- No integer has white space in it. -/
theorem SpellsInteger.not_isSpace {cs : List Char} {i : Int} (h : SpellsInteger cs i) {c : Char} (hc : c ∈ cs) :
    Text.isSpace c = false := by
  cases h with
  | unsigned _ hds => exact isSpace_of_isDigit (hds c hc)
  | plus _ hds =>
    rcases List.mem_cons.mp hc with rfl | hc
    · decide
    · exact isSpace_of_isDigit (hds c hc)
  | minus _ hds =>
    rcases List.mem_cons.mp hc with rfl | hc
    · decide
    · exact isSpace_of_isDigit (hds c hc)

/-- The text of an integer is read as the number nearest to it. -/
theorem SpellsInteger.exists_read? {cs : List Char} {i : Int} (h : SpellsInteger cs i) :
    ∃ x, read? (String.ofList cs) = some x ∧ IsNearest i x := by
  cases h with
  | unsigned hne hds =>
    obtain ⟨d, r, rfl⟩ := List.exists_cons_of_ne_nil hne
    -- A digit is no sign, so nothing is split off.
    have hsplit := splitSign_of_digit (hds d List.mem_cons_self) r
    exact ⟨_, read?_digits hsplit hne hds, isNearest_ofScientific false _⟩
  | plus hne hds => exact ⟨_, read?_digits rfl hne hds, isNearest_ofScientific false _⟩
  | minus hne hds => exact ⟨_, read?_digits rfl hne hds, isNearest_ofScientific true _⟩

end Binary64

end LinkEmbed
