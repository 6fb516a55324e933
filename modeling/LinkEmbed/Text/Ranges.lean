/-!
# Sets of characters as ranges

A set of code points as a sorted array of ranges, written as hexadecimal numbers and pairs of them:
`41-5a 5f`.
-/

namespace LinkEmbed.Text

/-- The value of a hexadecimal digit. -/
def hexValue? (c : Char) : Option Nat :=
  if '0' ≤ c ∧ c ≤ '9' then some (c.toNat - '0'.toNat)
  else if 'a' ≤ c ∧ c ≤ 'f' then some (c.toNat - 'a'.toNat + 10)
  else if 'A' ≤ c ∧ c ≤ 'F' then some (c.toNat - 'A'.toNat + 10)
  else none

/-- The number a list of hexadecimal digits spells; other characters are passed over. -/
def ofHex (cs : List Char) : Nat :=
  cs.foldl (fun n c => match hexValue? c with
    | some d => 16 * n + d
    | none => n) 0

/-- Split a list at every element that satisfies `p`. -/
def splitWhere {α : Type u} (p : α → Bool) : List α → List (List α)
  | [] => [[]]
  | a :: r =>
    if p a then [] :: splitWhere p r
    else
      match splitWhere p r with
      | [] => [[a]]
      | w :: ws => (a :: w) :: ws

/-- A list cut at the first element that satisfies `p`, which goes to neither part. -/
def cutAt {α : Type u} (p : α → Bool) (l : List α) : List α × List α :=
  (l.takeWhile fun a => !p a, (l.dropWhile fun a => !p a).drop 1)

/-- Add a character to the word being read, or end that word at a blank or a line end. -/
def wordStep (state : List Char × List (List Char)) (c : Char) : List Char × List (List Char) :=
  let (word, done) := state
  if c = ' ' ∨ c = '\n' then (if word.isEmpty then ([], done) else ([], word.reverse :: done))
  else (c :: word, done)

/-- The words of a text: its parts between blanks and line ends. -/
def words (s : String) : List (List Char) :=
  let (word, done) := (s.toList ++ [' ']).foldl wordStep ([], [])
  (if word.isEmpty then done else word.reverse :: done).reverse

/-- A set of code points: ranges with both ends, in order. -/
structure Ranges where
  ranges : Array (Nat × Nat)

namespace Ranges

/-- One written range. -/
def ofWord (w : List Char) : Nat × Nat :=
  match splitWhere (· == '-') w with
  | [a, b] => (ofHex a, ofHex b)
  | _ => (ofHex w, ofHex w)

/-- Read the written form. -/
def ofText (s : String) : Ranges := ⟨((words s).map ofWord).toArray⟩

/-- The index of the last element of `a` between `lo` and `hi` whose key is at most `x`, as one more than
the index; `lo` when there is none. -/
def lastAtMost {α : Type u} (key : α → Nat) (a : Array α) (x : Nat) (lo hi : Nat) : Nat :=
  if lo < hi then
    let mid := (lo + hi) / 2
    match a[mid]? with
    | none => lo
    | some e => if key e ≤ x then lastAtMost key a x (mid + 1) hi else lastAtMost key a x lo mid
  else lo
termination_by hi - lo

/-- Whether a code point is in the set. -/
def contains (r : Ranges) (x : Nat) : Bool :=
  match lastAtMost Prod.fst r.ranges x 0 r.ranges.size with
  | 0 => false
  | i + 1 =>
    match r.ranges[i]? with
    | some (_, last) => x ≤ last
    | none => false

end Ranges

end LinkEmbed.Text
