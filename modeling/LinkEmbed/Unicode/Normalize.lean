import LinkEmbed.Unicode.NormalTable

/-!
# Canonical composition

The normal form C of Unicode: decompose, bring marks into the order of their classes, and compose again.
-/

namespace LinkEmbed.Unicode

/-- A canonical decomposition: for good, or into two characters that compose again. -/
inductive Decomposition where
  | final (parts : List Nat)
  | pair (first last : Nat)

/-- Read an entry of the table. -/
def Decomposition.ofWord (w : List Char) : Nat × Decomposition :=
  let (key, rest) := Text.cutAt (fun c => c == '=' || c == '+') w
  let parts := (Text.splitWhere (· == '.') rest).map Text.ofHex
  match w.contains '+', parts with
  | true, [a, b] => (Text.ofHex key, .pair a b)
  | _, parts => (Text.ofHex key, .final parts)

/-- The decompositions in order of their characters. -/
def decompositions : Array (Nat × Decomposition) :=
  ((Text.words decompositionText).map Decomposition.ofWord).toArray

/-- Read an entry of the table of combining classes. -/
def combiningOfWord (w : List Char) : Nat × Nat × Nat :=
  let (range, cls) := Text.cutAt (· == '=') w
  let (a, b) := Text.Ranges.ofWord range
  (a, b, Text.ofHex cls)

/-- Ranges with their combining class. -/
def combiningRanges : Array (Nat × Nat × Nat) :=
  ((Text.words combiningText).map combiningOfWord).toArray

/-- The combining class of a character; 0 for one that starts a new group. -/
def combiningClass (c : Nat) : Nat :=
  match Text.Ranges.lastAtMost (fun e : Nat × Nat × Nat => e.1) combiningRanges c 0 combiningRanges.size with
  | 0 => 0
  | i + 1 =>
    match combiningRanges[i]? with
    | some (_, last, cls) => if c ≤ last then cls else 0
    | none => 0

/-- The entry of a character in the table of decompositions. -/
def decomposition? (c : Nat) : Option Decomposition :=
  match Text.Ranges.lastAtMost (fun e : Nat × Decomposition => e.1) decompositions c 0
    decompositions.size with
  | 0 => none
  | i + 1 => decompositions[i]?.bind fun e => if e.1 = c then some e.2 else none

/-- The syllables of Hangul decompose by arithmetic: 21 · 28 for each leading consonant. -/
def decomposeHangul (c : Nat) : List Nat :=
  let s := c - 0xAC00
  let front := [0x1100 + s / 588, 0x1161 + s % 588 / 28]
  if s % 28 = 0 then front else front ++ [0x11A7 + s % 28]

/-- The full decomposition of a character. Four steps reach the end of every chain of pairs. -/
def decompose : Nat → Nat → List Nat
  | 0, c => [c]
  | steps + 1, c =>
    if 0xAC00 ≤ c ∧ c ≤ 0xD7A3 then decomposeHangul c
    else
      match decomposition? c with
      | none => [c]
      | some (.final parts) => parts
      | some (.pair a b) => decompose steps a ++ [b]

/-- Put a character in its place behind a list that is given last character first: before marks of a
higher class. -/
def insertMark (c : Nat) : List Nat → List Nat
  | [] => [c]
  | d :: r =>
    if combiningClass c ≠ 0 ∧ combiningClass c < combiningClass d then d :: insertMark c r else c :: d :: r

/-- The character composed of two. -/
def composePair? (a b : Nat) : Option Nat :=
  if 0x1100 ≤ a ∧ a ≤ 0x1112 ∧ 0x1161 ≤ b ∧ b ≤ 0x1175 then
    some (0xAC00 + ((a - 0x1100) * 21 + (b - 0x1161)) * 28)
  else if 0xAC00 ≤ a ∧ a ≤ 0xD7A3 ∧ (a - 0xAC00) % 28 = 0 ∧ 0x11A8 ≤ b ∧ b ≤ 0x11C2 then
    some (a + (b - 0x11A7))
  else
    decompositions.findSome? fun e =>
      match e.2 with
      | .pair x y => if x = a ∧ y = b then some e.1 else none
      | .final _ => none

/-- Composition under way: what is done and the marks that stay, both last first, the starter that marks go
to, and the class of the last mark. -/
structure Composing where
  done : List Nat := []
  starter : Option Nat := none
  marks : List Nat := []
  lastClass : Nat := 0

namespace Composing

/-- All characters so far, last first. -/
def flush (s : Composing) : List Nat := s.marks ++ s.starter.toList ++ s.done

/-- Take the next character: into the starter if nothing stands between them, or else behind it. -/
def step (s : Composing) (c : Nat) : Composing :=
  let cls := combiningClass c
  match s.starter with
  | none => if cls = 0 then { s with starter := some c } else { s with done := c :: s.done }
  | some a =>
    match if s.marks.isEmpty ∨ s.lastClass < cls then composePair? a c else none with
    | some p => { s with starter := some p }
    | none =>
      if cls = 0 then { done := s.flush, starter := some c }
      else { s with marks := c :: s.marks, lastClass := cls }

end Composing

/-- The normal form C of a list of code points. -/
def normalize (cs : List Nat) : List Nat :=
  let ordered := (cs.flatMap (decompose 4)).foldl (fun acc c => insertMark c acc) []
  (ordered.reverse.foldl Composing.step {}).flush.reverse

end LinkEmbed.Unicode
