import LinkEmbed.Proofs.Binary64.Value
import Mathlib.Data.Nat.Digits.Defs
import Mathlib.Tactic.NormNum

/-!
# Natural numbers as floating point numbers

The floating point number nearest to a natural number is a natural number too, or infinite far out.

* `Binary64.roundDiv_le_iff` — where rounded quotients stay below an even bound: a half is rounded to it.
* `Binary64.nearest_eq_self_iff` — a number is its own nearest exactly when 53 binary places suffice for it, which
  they do below `2^53`; beyond, neighbours lie further and further apart (`Binary64.spacing`).
* `Binary64.two_pow_le_nearest`, `Binary64.nearest_le_two_pow` — rounding does not leave the interval between powers
  of two.
* `Binary64.nearest_le_iff`, `Binary64.nearest_le_two_pow_64_iff` — which numbers are rounded to at most a bound.
* `Binary64.isNearest_ofRatio`, `Binary64.isNearest_ofInt` — the conversion gives the nearest number.
-/

namespace LinkEmbed.Binary64

/-! ## Rounded quotients -/

/-- Rounding goes to one of the two natural numbers around a quotient. -/
theorem roundDiv_bounds (n d : Nat) : n / d ≤ roundDiv n d ∧ roundDiv n d ≤ n / d + 1 := by
  unfold roundDiv
  dsimp only
  split <;> omega

theorem roundDiv_mul (k : Nat) {d : Nat} (hd : 0 < d) : roundDiv (k * d) d = k := by
  unfold roundDiv
  simp [Nat.mul_div_cancel k hd, Nat.mul_mod_left, hd.ne]

/-- A half between an even number and the next goes to the even one. -/
theorem roundDiv_le_iff {n d k : Nat} (hd : 0 < d) (hk : k % 2 = 0) :
    roundDiv n d ≤ k ↔ 2 * n ≤ (2 * k + 1) * d := by
  have hdiv := Nat.div_add_mod n d
  have hmod := Nat.mod_lt n hd
  have hbounds := roundDiv_bounds n d
  have hexpand : (2 * k + 1) * d = 2 * (d * k) + d := by ring
  rw [hexpand]
  rcases lt_trichotomy (n / d) k with h | h | h
  · -- The quotient is below `k`, and so it is when it is rounded up.
    have hle : d * (n / d + 1) ≤ d * k := Nat.mul_le_mul_left d h
    rw [Nat.mul_add_one] at hle
    omega
  · -- The quotient is `k` before it is rounded, and an even `k` stays when the rest is a half.
    unfold roundDiv
    rw [h] at hdiv ⊢
    dsimp only
    split
    next hup =>
      simp only [Bool.or_eq_true, Bool.and_eq_true, decide_eq_true_eq, beq_iff_eq] at hup
      omega
    next hdown =>
      simp only [Bool.or_eq_true, Bool.and_eq_true, decide_eq_true_eq, beq_iff_eq] at hdown
      omega
  · -- The quotient is above `k`, and rounding takes nothing away.
    have hle : d * (k + 1) ≤ d * (n / d) := Nat.mul_le_mul_left d h
    rw [Nat.mul_add_one] at hle
    omega

/-! ## Nearest numbers -/

/-- How far the floating point numbers around `n` lie apart, where they are whole. -/
def spacing (n : Nat) : Nat := 2 ^ (n.log2 - 52)

/-- The natural number that the floating point number nearest to `n` is. -/
def nearest (n : Nat) : Nat := roundDiv n (spacing n) * spacing n

theorem spacing_pos (n : Nat) : 0 < spacing n := Nat.two_pow_pos _

/-- Below `2^53` every natural number is a floating point number. -/
theorem spacing_of_lt {n : Nat} (h : n < 2 ^ 53) : spacing n = 1 := by
  have hlog : n.log2 - 52 = 0 := by
    by_cases hn : n = 0
    · rw [hn]
      rfl
    · have := (Nat.log2_lt hn).mpr h
      omega
  rw [spacing, hlog]
  rfl

/-- Numbers with 53 binary places are their own nearest. -/
theorem nearest_eq_self_iff {n : Nat} : nearest n = n ↔ spacing n ∣ n := by
  constructor
  · intro h
    exact ⟨roundDiv n (spacing n), by rw [Nat.mul_comm]; exact h.symm⟩
  · rintro ⟨k, hk⟩
    have hround : roundDiv n (spacing n) = k := by
      have hmul := roundDiv_mul k (spacing_pos n)
      rwa [Nat.mul_comm, ← hk] at hmul
    rw [nearest, hround, Nat.mul_comm]
    exact hk.symm

/-- So there nothing is rounded. -/
theorem nearest_of_lt {n : Nat} (h : n < 2 ^ 53) : nearest n = n :=
  nearest_eq_self_iff.mpr (by rw [spacing_of_lt h]; exact Nat.one_dvd n)

/-- The nearest number lies between the powers of two that the number lies between. -/
theorem two_pow_le_nearest {n : Nat} (hn : n ≠ 0) : 2 ^ n.log2 ≤ nearest n := by
  by_cases hlog : n.log2 < 52
  · rw [nearest_of_lt ((Nat.log2_lt hn).mp (by omega))]
    exact Nat.log2_self_le hn
  · -- A multiple of the spacing: 52 places are left once the first is set.
    have hsplit : 2 ^ n.log2 = 2 ^ 52 * spacing n := by rw [spacing, ← Nat.pow_add, Nat.add_sub_cancel' (by omega)]
    have hdiv : 2 ^ 52 ≤ n / spacing n := by
      rw [Nat.le_div_iff_mul_le (spacing_pos n), ← hsplit]
      exact Nat.log2_self_le hn
    rw [hsplit]
    exact Nat.mul_le_mul_right _ (hdiv.trans (roundDiv_bounds n (spacing n)).1)

/-- The same from above, where rounding may reach the power itself. -/
theorem nearest_le_two_pow {n : Nat} (hn : n ≠ 0) : nearest n ≤ 2 ^ (n.log2 + 1) := by
  by_cases hlog : n.log2 < 52
  · rw [nearest_of_lt ((Nat.log2_lt hn).mp (by omega))]
    exact Nat.lt_log2_self.le
  · have hsplit : 2 ^ (n.log2 + 1) = 2 ^ 53 * spacing n := by rw [spacing, ← Nat.pow_add]; congr 1; omega
    have hdiv : n / spacing n < 2 ^ 53 := by
      rw [Nat.div_lt_iff_lt_mul (spacing_pos n), ← hsplit]
      exact Nat.lt_log2_self
    rw [hsplit]
    exact Nat.mul_le_mul_right _ ((roundDiv_bounds n (spacing n)).2.trans hdiv)

/-- Below `2^53` nothing is rounded, and nothing from there on is rounded to less. -/
theorem nearest_le_iff {n bound : Nat} (hbound : bound < 2 ^ 53) : nearest n ≤ bound ↔ n ≤ bound := by
  by_cases hn : n < 2 ^ 53
  · rw [nearest_of_lt hn]
  · have hlog : 53 ≤ n.log2 := (Nat.le_log2 (by omega)).mpr (not_lt.mp hn)
    have hnearest := two_pow_le_nearest (show n ≠ 0 by omega)
    have hpow : 2 ^ 53 ≤ 2 ^ n.log2 := Nat.pow_le_pow_right two_pos hlog
    omega

/-- Between `2^64` and the next number, `2^12` further, the half is rounded down. -/
theorem nearest_le_two_pow_64_iff {n : Nat} : nearest n ≤ 2 ^ 64 ↔ n ≤ 2 ^ 64 + 2 ^ 11 := by
  by_cases hn : n = 0
  · subst hn
    decide
  have hlower := Nat.log2_self_le hn
  have hupper : n < 2 ^ (n.log2 + 1) := Nat.lt_log2_self
  rcases lt_trichotomy n.log2 64 with hlog | hlog | hlog
  · -- Both sides hold: the number is below the next power of two.
    have hpow : 2 ^ (n.log2 + 1) ≤ 2 ^ 64 := Nat.pow_le_pow_right two_pos hlog
    have hnearest := nearest_le_two_pow hn
    omega
  · -- Here the spacing is `2^12`, and `2^64` is an even multiple of it, so a half is rounded down.
    have hspacing : spacing n = 2 ^ 12 := by rw [spacing, hlog]
    have hround := roundDiv_le_iff (n := n) (spacing_pos n) (show 2 ^ 52 % 2 = 0 by decide)
    rw [nearest]
    rw [hspacing] at hround ⊢
    omega
  · -- Neither side holds: from `2^65` on rounding cannot get below it.
    have hpow : 2 ^ 65 ≤ 2 ^ n.log2 := Nat.pow_le_pow_right two_pos hlog
    have hnearest := two_pow_le_nearest hn
    omega

/-! ## Natural numbers as floating point numbers -/

/-- A natural number with a sign. -/
def withSign (negative : Bool) (n : Nat) : Int := if negative then -n else n

/-- A floating point number is the nearest to an integer, and infinite only if that lies far out. -/
inductive IsNearest : Int → Binary64 → Prop where
  | finite {negative : Bool} {n m : Nat} {q : Int} :
      (m : ℚ) * 2 ^ q = nearest n → IsNearest (withSign negative n) (.finite negative m q)
  | infinite {negative : Bool} {n : Nat} : 2 ^ 128 ≤ n → IsNearest (withSign negative n) (.infinite negative)

theorem isNearest_zero (negative : Bool) : IsNearest (withSign negative 0) (zero negative) := by
  refine .finite ?_
  have hnearest : nearest 0 = 0 := nearest_of_lt (by decide)
  simp [hnearest]

/-- Of an integer the exponent is one less than its number of binary places. -/
theorem floorLog2_one {n : Nat} (hn : n ≠ 0) : floorLog2 n 1 = n.log2 := by
  have hreaches : 1 <<< n.log2 ≤ n := by
    rw [Nat.shiftLeft_eq, Nat.one_mul]
    exact Nat.log2_self_le hn
  have hone : Nat.log2 1 = 0 := by decide
  simp [floorLog2, hone, hreaches]

/-- The mantissa before a carry, over the exponent. -/
theorem scaled_eq {n : Nat} (hn : n ≠ 0) :
    let q : Int := n.log2 - 52
    ((if 0 ≤ q then roundDiv n (1 <<< q.toNat) else roundDiv (n <<< (-q).toNat) 1 : Nat) : ℚ) * 2 ^ q = nearest n := by
  dsimp only
  split
  next hq =>
    obtain ⟨k, hk⟩ := Int.eq_ofNat_of_zero_le hq
    -- The exponent is not negative, so it is the spacing that the number is rounded to.
    have hspacing : spacing n = 2 ^ k := by rw [spacing]; congr 1; omega
    rw [hk, nearest, hspacing]
    simp [Nat.shiftLeft_eq]
  next hq =>
    obtain ⟨k, hk⟩ := Int.eq_ofNat_of_zero_le (Int.neg_nonneg_of_nonpos (not_le.mp hq).le)
    -- A negative exponent makes room for all places, so nothing is rounded.
    have hexponent : (n.log2 : Int) - 52 = -(k : Int) := by omega
    have hround : roundDiv (n * 2 ^ k) 1 = n * 2 ^ k := by
      have hmul := roundDiv_mul (n * 2 ^ k) Nat.one_pos
      rwa [Nat.mul_one] at hmul
    rw [hexponent, nearest_of_lt ((Nat.log2_lt hn).mp (by omega))]
    simp [Nat.shiftLeft_eq, hround]

/-- Rounding to 53 places gives the nearest number. A carry to the next power of two changes how the number is written
and not which it is. -/
theorem isNearest_ofRatio (negative : Bool) (n : Nat) : IsNearest (withSign negative n) (ofRatio negative n 1) := by
  unfold ofRatio
  split
  next h =>
    rw [h]
    exact isNearest_zero negative
  next hn =>
    have hq : max (floorLog2 n 1 - 52) minExponent = n.log2 - 52 := by
      rw [floorLog2_one hn, minExponent]
      omega
    have hvalue := scaled_eq hn
    dsimp only at hvalue ⊢
    rw [hq]
    -- What the mantissa is no longer matters once its value is known.
    generalize (if 0 ≤ (n.log2 : Int) - 52 then _ else _ : Nat) = m at hvalue ⊢
    have hfar : (n.log2 : Int) - 52 + 1 > maxExponent → 2 ^ 128 ≤ n := by
      intro hlarge
      rw [maxExponent] at hlarge
      have hlog : 128 ≤ n.log2 := by omega
      exact le_trans (Nat.pow_le_pow_right two_pos hlog) (Nat.log2_self_le hn)
    by_cases hcarry : m = mantissaBound
    · -- A carry leaves the value as it is.
      rw [if_pos hcarry]
      dsimp only
      split
      next hlarge => exact .infinite (hfar hlarge)
      next =>
        refine .finite ?_
        rw [← hvalue, hcarry, zpow_add_one₀ two_ne_zero, leastFullMantissa, mantissaBound]
        push_cast
        ring
    · rw [if_neg hcarry]
      dsimp only
      split
      next hlarge => exact .infinite (hfar (hlarge.trans (lt_add_one _)))
      next => exact .finite hvalue

/-- Every integer has a nearest number. -/
theorem isNearest_ofInt (i : Int) : IsNearest i (ofInt i) := by
  have hi : i = withSign (i < 0) i.natAbs := by
    unfold withSign
    by_cases h : i < 0
    · rw [if_pos (decide_eq_true h)]
      omega
    · rw [if_neg (by simp [h])]
      omega
  have hnearest := isNearest_ofRatio (i < 0) i.natAbs
  rwa [← hi] at hnearest

end LinkEmbed.Binary64
