/-!
# Bytes as text

Reading bytes as UTF-8. Bytes that belong to no character are replaced: each longest run of bytes that could
have begun one stands for one replacement character.
-/

namespace LinkEmbed.Text

/-- What a first byte asks of the bytes behind it: how many there are, and the bounds of the next one. -/
def sequenceRules (b : Nat) : Option (Nat × Nat × Nat) :=
  if 0xC2 ≤ b ∧ b ≤ 0xDF then some (1, 0x80, 0xBF)
  else if b = 0xE0 then some (2, 0xA0, 0xBF)
  else if b = 0xED then some (2, 0x80, 0x9F)
  else if 0xE1 ≤ b ∧ b ≤ 0xEF then some (2, 0x80, 0xBF)
  else if b = 0xF0 then some (3, 0x90, 0xBF)
  else if b = 0xF4 then some (3, 0x80, 0x8F)
  else if 0xF1 ≤ b ∧ b ≤ 0xF3 then some (3, 0x80, 0xBF)
  else none

/-- The bits that a first byte gives to its character. -/
def leadingBits (b more : Nat) : Nat :=
  if more = 1 then b - 0xC0 else if more = 2 then b - 0xE0 else b - 0xF0

/-- Take the bytes that follow a first byte: the number they spell if all are there, and how many there
are. -/
def takeFollowing : Nat → Nat → Nat → Nat → Nat → List Nat → Option Nat × Nat
  | 0, _, _, n, used, _ => (some n, used)
  | _ + 1, _, _, _, used, [] => (none, used)
  | more + 1, lo, hi, n, used, b :: r =>
    if lo ≤ b ∧ b ≤ hi then takeFollowing more 0x80 0xBF (64 * n + (b - 0x80)) (used + 1) r
    else (none, used)

/-- The characters of bytes. The first argument bounds their number. -/
def decodeBytes : Nat → List Nat → List Char
  | 0, _ => []
  | _, [] => []
  | fuel + 1, b :: r =>
    if b < 0x80 then Char.ofNat b :: decodeBytes fuel r
    else
      match sequenceRules b with
      | none => '\uFFFD' :: decodeBytes fuel r
      | some (more, lo, hi) =>
        match takeFollowing more lo hi (leadingBits b more) 0 r with
        | (some n, used) => Char.ofNat n :: decodeBytes fuel (r.drop used)
        | (none, used) => '\uFFFD' :: decodeBytes fuel (r.drop used)

/-- The text of bytes. -/
def ofBytes (bytes : List Nat) : String := String.ofList (decodeBytes bytes.length bytes)

end LinkEmbed.Text
