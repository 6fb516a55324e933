/-!
# Punycode

Labels of any characters as labels of letters, digits and hyphens (RFC 3492): the plain characters first,
then the others in order of their code points, each as the distance from the one before it in a number
system whose digits change their weight.
-/

namespace LinkEmbed.Domain.Punycode

/-- The digit of a value: letters first, then decimal digits. -/
def digit (d : Nat) : Char := if d < 26 then Char.ofNat (97 + d) else Char.ofNat (22 + d)

/-- The value of a digit. -/
def value? (c : Char) : Option Nat :=
  if 'a' ≤ c ∧ c ≤ 'z' then some (c.toNat - 97)
  else if 'A' ≤ c ∧ c ≤ 'Z' then some (c.toNat - 65)
  else if '0' ≤ c ∧ c ≤ '9' then some (c.toNat - 22)
  else none

/-- The threshold of the digit at place `k`, places counting in steps of 36. -/
def threshold (k bias : Nat) : Nat := if k ≤ bias then 1 else min (k - bias) 26

/-- Divide by 35 until at most 455 is left; 36 is added to the second number at each step. -/
def shrink (delta k : Nat) : Nat × Nat :=
  if h : 455 < delta then shrink (delta / 35) (k + 36) else (delta, k)
termination_by delta
decreasing_by exact Nat.div_lt_self (by omega) (by omega)

/-- The bias after a distance has been written as the `points`-th character. -/
def adapt (delta points : Nat) (first : Bool) : Nat :=
  let d := if first then delta / 700 else delta / 2
  let (d, k) := shrink (d + d / points) 0
  k + 36 * d / (d + 38)

/-- A distance as digits. The first argument bounds their number. -/
def writeNumber : Nat → Nat → Nat → Nat → List Char
  | 0, _, _, q => [digit q]
  | places + 1, bias, k, q =>
    let t := threshold k bias
    if q < t then [digit q]
    else digit (t + (q - t) % (36 - t)) :: writeNumber places bias (k + 36) ((q - t) / (36 - t))

/-- Where writing stands: the digits so far, the distance, the bias, and how many characters are done. -/
structure Writing where
  out : List Char
  delta : Nat
  bias : Nat
  done : Nat

/-- Write the code point `m` wherever it occurs in the label. -/
def Writing.pass (basic m : Nat) (label : List Char) (w : Writing) : Writing :=
  label.foldl (fun w c =>
    if c.toNat < m then { w with delta := w.delta + 1 }
    else if c.toNat = m then
      { out := w.out ++ writeNumber (w.delta.log2 + 1) w.bias 36 w.delta, delta := 0,
        bias := adapt w.delta (w.done + 1) (w.done == basic), done := w.done + 1 }
    else w) w

/-- Write all code points from `n` up, least first. The first argument bounds the number of rounds. -/
def writeAll (basic : Nat) (label : List Char) : Nat → Nat → Writing → List Char
  | 0, _, w => w.out
  | rounds + 1, n, w =>
    match (label.filter fun c => n ≤ c.toNat).map Char.toNat with
    | [] => w.out
    | m :: ms =>
      let m := ms.foldl min m
      let w := { w with delta := w.delta + (m - n) * (w.done + 1) }
      let w := w.pass basic m label
      writeAll basic label rounds (m + 1) { w with delta := w.delta + 1 }

/-- The label in letters, digits and hyphens. -/
def encode (label : List Char) : List Char :=
  let basic := label.filter fun c => c.toNat < 128
  let start := if basic.isEmpty then [] else basic ++ ['-']
  start ++ writeAll basic.length label label.length 128 ⟨[], 0, 72, basic.length⟩

/-- Read a distance: the position it leads to, and what is left. -/
def readNumber (bias : Nat) : Nat → Nat → Nat → List Char → Option (Nat × List Char)
  | _, _, _, [] => none
  | i, weight, k, c :: r =>
    match value? c with
    | none => none
    | some d =>
      let i := i + d * weight
      let t := threshold k bias
      if d < t then some (i, r) else readNumber bias i (weight * (36 - t)) (k + 36) r

/-- Read the distances and put their characters in place. The first argument bounds their number. -/
def readAll : Nat → List Char → Nat → Nat → Nat → List Char → Option (List Char)
  | _, out, _, _, _, [] => some out
  | 0, _, _, _, _, _ :: _ => none
  | rounds + 1, out, n, i, bias, cs =>
    match readNumber bias i 1 36 cs with
    | none => none
    | some (j, rest) =>
      let points := out.length + 1
      let bias := adapt (j - i) points (i == 0)
      let n := n + j / points
      let i := j % points
      if n > 0x10FFFF ∨ (0xD800 ≤ n ∧ n ≤ 0xDFFF) then none
      else readAll rounds (out.take i ++ Char.ofNat n :: out.drop i) n (i + 1) bias rest

/-- The label that letters, digits and hyphens stand for. -/
def decode? (cs : List Char) : Option (List Char) :=
  if !cs.all (fun c => c.toNat < 128) then none
  else
    let back := cs.reverse
    match back.dropWhile (· != '-') with
    | [] => readAll cs.length [] 128 0 72 cs
    | _ :: basic => readAll cs.length basic.reverse 128 0 72 (back.takeWhile (· != '-')).reverse

end LinkEmbed.Domain.Punycode
