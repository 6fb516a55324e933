/-!
# 64-bit floating point numbers

An exact model of the IEEE 754 format `binary64`: a number is `±m · 2^q`, an infinity or not a number.
Every operation computes the exact result in natural numbers and rounds it once, to the nearest
representable value and to the even one of two that are equally near.
-/

namespace LinkEmbed

/-- A 64-bit floating point number; `finite s m q` is `m · 2^q`, negated when `s` holds. -/
inductive Binary64 where
  | finite (negative : Bool) (mantissa : Nat) (exponent : Int)
  | infinite (negative : Bool)
  | nan
deriving DecidableEq, Repr, Inhabited

namespace Binary64

/-- The least exponent of the format. -/
def minExponent : Int := -1074

/-- The greatest exponent of the format. -/
def maxExponent : Int := 971

/-- Mantissas are below `2^53`. -/
def mantissaBound : Nat := 1 <<< 53

/-- A mantissa from here on, `2^52`, uses every place of the format. -/
def leastFullMantissa : Nat := 1 <<< 52

/-- A power of ten. -/
def tenPower (k : Nat) : Nat := Nat.pow 10 k

/-- Zero, of either sign. -/
def zero (negative : Bool) : Binary64 := .finite negative 0 minExponent

/-- The quotient `n / d`, rounded to the nearest natural number and a half to the even one. -/
def roundDiv (n d : Nat) : Nat :=
  let m := n / d
  let twice := 2 * (n % d)
  if twice > d || (twice == d && m % 2 == 1) then m + 1 else m

/-- The greatest `e` with `2^e ≤ n / d`, for positive `n` and `d`. -/
def floorLog2 (n d : Nat) : Int :=
  let k : Int := (n.log2 : Int) - (d.log2 : Int)
  let reaches := if 0 ≤ k then d <<< k.toNat ≤ n else d ≤ n <<< (-k).toNat
  if reaches then k else k - 1

/-- The number nearest to `n / d`, negated when `negative` holds; `d` is positive. -/
def ofRatio (negative : Bool) (n d : Nat) : Binary64 :=
  if n = 0 then zero negative
  else
    let q := max (floorLog2 n d - 52) minExponent
    let m := if 0 ≤ q then roundDiv n (d <<< q.toNat) else roundDiv (n <<< (-q).toNat) d
    let (m, q) := if m = mantissaBound then (leastFullMantissa, q + 1) else (m, q)
    if q > maxExponent then .infinite negative else .finite negative m q

/-- The number nearest to an integer. -/
def ofInt (n : Int) : Binary64 :=
  ofRatio (n < 0) n.natAbs 1

/-- The number nearest to `d · 10^e`. Past 310 digits before the point the result is infinite and
past 330 zeros after it the result is zero, so no large power is computed for those. -/
def ofScientific (negative : Bool) (d : Nat) (e : Int) : Binary64 :=
  if d = 0 then zero negative
  else
    let magnitude : Int := e + (Nat.toDigits 10 d).length
    if magnitude > 310 then .infinite negative
    else if magnitude < -330 then zero negative
    else if 0 ≤ e then ofRatio negative (d * tenPower e.toNat) 1
    else ofRatio negative d (tenPower (-e).toNat)

/-- The value `m · 2^q` as a fraction with positive denominator. -/
def fraction (m : Nat) (q : Int) : Nat × Nat :=
  if 0 ≤ q then (m <<< q.toNat, 1) else (m, 1 <<< (-q).toNat)

/-- Neither infinite nor not a number. -/
def isFinite : Binary64 → Bool
  | .finite .. => true
  | _ => false

/-- The number with the other sign. -/
def neg : Binary64 → Binary64
  | .finite s m q => .finite (!s) m q
  | .infinite s => .infinite (!s)
  | .nan => .nan

/-- The rounded product. -/
def mul : Binary64 → Binary64 → Binary64
  | .finite s m q, .finite t n p =>
    let (a, b) := fraction (m * n) (q + p)
    ofRatio (s != t) a b
  | .finite s m _, .infinite t => if m = 0 then .nan else .infinite (s != t)
  | .infinite s, .finite t m _ => if m = 0 then .nan else .infinite (s != t)
  | .infinite s, .infinite t => .infinite (s != t)
  | _, _ => .nan

/-- The rounded quotient. -/
def div : Binary64 → Binary64 → Binary64
  | .finite s m q, .finite t n p =>
    if n = 0 then (if m = 0 then .nan else .infinite (s != t))
    else
      let (a, b) := fraction m q
      let (c, d) := fraction n p
      ofRatio (s != t) (a * d) (b * c)
  | .finite s _ _, .infinite t => zero (s != t)
  | .infinite s, .finite t _ _ => .infinite (s != t)
  | _, _ => .nan

/-- The signed mantissa of `a` and `b` over the smaller of their exponents. -/
def aligned (s : Bool) (m : Nat) (q p : Int) : Int :=
  let n : Int := (m <<< (q - min q p).toNat : Nat)
  if s then -n else n

/-- Numeric equality: the two zeros are equal, and what is not a number equals nothing. -/
def beq : Binary64 → Binary64 → Bool
  | .finite s m q, .finite t n p => aligned s m q p == aligned t n p q
  | .infinite s, .infinite t => s == t
  | _, _ => false

/-- Numeric order; what is not a number is not below anything. -/
def lt : Binary64 → Binary64 → Bool
  | .finite s m q, .finite t n p => aligned s m q p < aligned t n p q
  | .finite .., .infinite t => !t
  | .infinite s, .finite .. => s
  | .infinite s, .infinite t => s && !t
  | _, _ => false

/-- The magnitude rounded to a natural number, a half away from zero. -/
def roundHalfUp (m : Nat) (q : Int) : Nat :=
  let (n, d) := fraction m q
  (2 * n + d) / (2 * d)

end LinkEmbed.Binary64
