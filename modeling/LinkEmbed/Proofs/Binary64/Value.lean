import LinkEmbed.Binary64.Basic
import Mathlib.Algebra.Order.Floor.Semifield
import Mathlib.Data.Rat.Floor
import Mathlib.Algebra.Order.Field.Power
import Mathlib.Tactic.FieldSimp
import Mathlib.Tactic.Ring
import Mathlib.Tactic.Positivity

/-!
# The value of a floating point number

A finite floating point number is a rational number (`Binary64.toRat`), and what is done with the parts of the
number is what is done with its value.

* `Binary64.lt_finite_iff` — comparing two numbers compares their values.
* `Binary64.fraction_eq` — the fraction of a mantissa and an exponent has their value.
* `Binary64.roundHalfUp_eq` — rounding a number rounds its value, a half up.
-/

namespace LinkEmbed.Binary64

/-- The rational number that a finite number is; any other counts as zero. -/
def toRat : Binary64 → ℚ
  | .finite s m q => (if s then -1 else 1) * (m * 2 ^ q)
  | _ => 0

theorem toRat_zero (s : Bool) : (zero s).toRat = 0 := by simp [zero, toRat]

theorem toRat_of_positive (m : Nat) (q : Int) : (finite false m q).toRat = m * 2 ^ q := by simp [toRat]

theorem toRat_neg (m : Nat) (q : Int) : (finite true m q).toRat = -(finite false m q).toRat := by simp [toRat]

/-! ## Order -/

/-- A mantissa brought to a smaller exponent keeps its value, since the factor is a power of two. -/
theorem aligned_eq (s : Bool) (m : Nat) {q p : Int} (h : p ≤ q) :
    (aligned s m q p : ℚ) * 2 ^ p = (finite s m q).toRat := by
  have hpow : (2 : ℚ) ^ q = 2 ^ (q - p).toNat * 2 ^ p := by
    rw [← zpow_natCast, ← zpow_add₀ two_ne_zero]
    congr 1
    omega
  have hmin : min q p = p := min_eq_right h
  cases s <;> simp [aligned, toRat, hmin, Nat.shiftLeft_eq, hpow] <;> ring

/-- Numbers compare as their values do. -/
theorem lt_finite_iff (s t : Bool) (m n : Nat) (q p : Int) :
    (finite s m q).lt (finite t n p) = true ↔ (finite s m q).toRat < (finite t n p).toRat := by
  have hpow : (0 : ℚ) < 2 ^ min q p := zpow_pos two_pos _
  have hleft : aligned s m q p = aligned s m q (min q p) := by simp [aligned]
  have hright : aligned t n p q = aligned t n p (min q p) := by simp [aligned, min_comm]
  -- Both are brought to the smaller of the exponents, where the mantissas compare as the values do.
  rw [lt, decide_eq_true_iff, hleft, hright, ← aligned_eq s m (min_le_left q p), ← aligned_eq t n (min_le_right q p),
    mul_lt_mul_iff_left₀ hpow, Int.cast_lt]

/-! ## Rounding -/

theorem fraction_pos (m : Nat) (q : Int) : 0 < (fraction m q).2 := by
  unfold fraction
  split
  · exact Nat.one_pos
  · rw [Nat.shiftLeft_eq, Nat.one_mul]
    exact Nat.two_pow_pos _

/-- The fraction has the value of the number it is made of, whatever the sign of the exponent. -/
theorem fraction_eq (m : Nat) (q : Int) : ((fraction m q).1 : ℚ) / (fraction m q).2 = m * 2 ^ q := by
  unfold fraction
  split
  next h =>
    obtain ⟨k, rfl⟩ := Int.eq_ofNat_of_zero_le h
    simp [Nat.shiftLeft_eq]
  next h =>
    obtain ⟨k, hk⟩ := Int.eq_ofNat_of_zero_le (Int.neg_nonneg_of_nonpos (not_le.mp h).le)
    obtain rfl : q = -(k : Int) := by omega
    simp [Nat.shiftLeft_eq, div_eq_mul_inv]

/-- A half goes up. -/
theorem roundHalfUp_eq (m : Nat) (q : Int) : roundHalfUp m q = ⌊(m : ℚ) * 2 ^ q + 1 / 2⌋₊ := by
  have hpos : ((fraction m q).2 : ℚ) ≠ 0 := Nat.cast_ne_zero.mpr (fraction_pos m q).ne'
  have hvalue : ((2 * (fraction m q).1 + (fraction m q).2 : Nat) : ℚ) / ((2 * (fraction m q).2 : Nat) : ℚ) =
      m * 2 ^ q + 1 / 2 := by
    rw [← fraction_eq]
    push_cast
    field_simp
  -- Doubling both parts makes the half a whole number, and the quotient of naturals is the floor.
  rw [← hvalue, Nat.floor_div_eq_div]
  rfl

end LinkEmbed.Binary64
