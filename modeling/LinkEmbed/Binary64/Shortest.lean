import LinkEmbed.Binary64.Basic

/-!
# The shortest decimal text of a floating point number

A finite number is written with the fewest decimal digits that read back as the same number, and
among those with the digits nearest to it.
-/

namespace LinkEmbed.Binary64

/-- A positive decimal number `0.d₁d₂… · 10^point`, with digits from 0 to 9 and `d₁` not zero. -/
structure Digits where
  digits : List Char
  point : Int
deriving DecidableEq, Repr

/-- The reals that round to `m · 2^q`, as bounds with a common denominator `den`, beside the value. -/
structure Interval where
  low : Nat
  value : Nat
  high : Nat
  den : Nat
  closed : Bool

/-- The interval of `m · 2^q`: half way to either neighbour, with its ends exactly when `m` is even.
Below a power of two the neighbour is nearer. -/
def interval (m : Nat) (q : Int) : Interval :=
  let lower := if m = leastFullMantissa ∧ q > minExponent then 4 * m - 1 else 4 * m - 2
  let scale := if 0 ≤ q - 2 then 1 <<< (q - 2).toNat else 1
  let den := if 0 ≤ q - 2 then 1 else 1 <<< (2 - q).toNat
  ⟨lower * scale, 4 * m * scale, (4 * m + 2) * scale, den, m % 2 == 0⟩

/-- Whether `n / d` lies in the interval. -/
def Interval.contains (i : Interval) (n d : Nat) : Bool :=
  let x := n * i.den
  if i.closed then i.low * d ≤ x && x ≤ i.high * d else i.low * d < x && x < i.high * d

/-- The greatest `e` with `10^e ≤ n / d`, for positive `n` and `d`. -/
def floorLog10 (n d : Nat) : Int :=
  let k : Int := ((Nat.toDigits 10 n).length : Int) - (Nat.toDigits 10 d).length
  let reaches := if 0 ≤ k then d * tenPower k.toNat ≤ n else d ≤ n * tenPower (-k).toNat
  if reaches then k else k - 1

/-- The point of the grid of multiples of `10^unit` that lies in the interval and is nearest to the
value, given as a multiple; of two equally near points the even one. -/
def Interval.gridPoint? (i : Interval) (unit : Int) : Option Nat :=
  let up := if 0 ≤ unit then tenPower unit.toNat else 1
  let down := if 0 ≤ unit then 1 else tenPower (-unit).toNat
  let below := i.value * down / (i.den * up)
  let above := below + 1
  let hit (k : Nat) := i.contains (k * up) down
  let twice := 2 * (i.value * down % (i.den * up))
  match hit below, hit above with
  | false, false => none
  | true, false => some below
  | false, true => some above
  | true, true =>
    if twice < i.den * up || (twice == i.den * up && below % 2 == 0) then some below else some above

/-- The shortest digits of `m · 2^q` for positive `m`: the coarsest grid with a point in the interval. -/
def shortestDigits (m : Nat) (q : Int) : Digits :=
  let i := interval m q
  let e := floorLog10 i.value i.den
  let hit := (List.range 17).findSome? fun (k : Nat) =>
    (i.gridPoint? (e - (k : Int))).map fun n => (n, e - (k : Int))
  match hit with
  | none => ⟨['0'], 0⟩
  | some (n, unit) =>
    let text := Nat.toDigits 10 n
    ⟨(text.reverse.dropWhile (· == '0')).reverse, unit + text.length⟩

/-- The digits with a point and no exponent: `123000`, `12.3`, `0.00123`. -/
def Digits.positional (d : Digits) : List Char :=
  if d.point ≤ 0 then '0' :: '.' :: (List.replicate (-d.point).toNat '0' ++ d.digits)
  else
    let n := d.point.toNat
    if d.digits.length ≤ n then d.digits ++ List.replicate (n - d.digits.length) '0'
    else d.digits.take n ++ '.' :: d.digits.drop n

/-- The digits as `d.ddde±x`: one digit before the point, none after it when there is only one. -/
def Digits.scientific (d : Digits) : List Char :=
  let exponent := 'e' :: (toString (d.point - 1)).toList
  match d.digits with
  | [] => '0' :: exponent
  | [c] => c :: exponent
  | c :: r => c :: '.' :: r ++ exponent

/-- A sign before the text of a magnitude. -/
def signed (negative : Bool) (cs : List Char) : String :=
  String.ofList (if negative then '-' :: cs else cs)

/-- The plain text: never an exponent, and no point in a whole number. -/
def text : Binary64 → String
  | .nan => "NaN"
  | .infinite s => signed s ['i', 'n', 'f']
  | .finite s m q => if m = 0 then signed s ['0'] else signed s (shortestDigits m q).positional

/-- The plain text with `.0` after a whole number, so that it reads as a fraction. -/
def textWithPoint (x : Binary64) : String :=
  let t := x.text
  if x.isFinite && !t.contains '.' then t ++ ".0" else t

/-- The text with a fraction for magnitudes from `10^-4` up to `10^16`, and with an exponent outside. -/
def exactText : Binary64 → String
  | .nan => "NaN"
  | .infinite s => signed s ['i', 'n', 'f']
  | .finite s m q =>
    if m = 0 then signed s ['0', '.', '0']
    else
      let d := shortestDigits m q
      if -3 ≤ d.point ∧ d.point ≤ 16 then (Binary64.finite s m q).textWithPoint
      else signed s d.scientific

end LinkEmbed.Binary64
