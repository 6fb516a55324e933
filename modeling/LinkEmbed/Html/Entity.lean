import LinkEmbed.Html.EntityTable
import LinkEmbed.Text.Ranges

/-!
# Character references

What stands for a character behind an ampersand: a name, or a number. A name may go on to be another name,
so the longest one that the text begins with counts.
-/

namespace LinkEmbed.Html

/-- Read an entry of the table of names. -/
def entityOfWord (w : List Char) : String × List Char :=
  let (name, codes) := Text.cutAt (· == '=') w
  (String.ofList name, (Text.splitWhere (· == '.') codes).map fun c => Char.ofNat (Text.ofHex c))

/-- The named references in the order of their names. -/
def entityList : List (String × List Char) := (Text.words entityText).map entityOfWord

/-- The named references for searching. -/
def entities : Array (String × List Char) := entityList.toArray

/-- Find a name between two indices of an array that is in the order of names. -/
def searchName {α : Type u} (a : Array (String × α)) (name : String) (lo hi : Nat) : Option α :=
  if lo < hi then
    let mid := (lo + hi) / 2
    match a[mid]? with
    | none => none
    | some (n, v) =>
      if name = n then some v
      else if name < n then searchName a name lo mid
      else searchName a name (mid + 1) hi
  else none
termination_by hi - lo

/-- The references that writers of markup use. They come so often that they are not searched for. -/
def commonEntities : List (String × List Char) :=
  [("amp;", ['&']), ("lt;", ['<']), ("gt;", ['>']), ("quot;", ['"'])]

/-- What a name stands for. -/
def findEntity? (name : String) : Option (List Char) :=
  match commonEntities.lookup name with
  | some chars => some chars
  | none => searchName entities name 0 entities.size

/-- The longest name, without its ampersand and its semicolon, has this many characters. -/
def longestEntity : Nat := 32

/-- The longest name that a text begins with, up to a length: its length and what it stands for. -/
def longestName? (cs : List Char) : Nat → Option (Nat × List Char)
  | 0 => none
  | n + 1 =>
    match findEntity? (String.ofList (cs.take (n + 1))) with
    | some chars => some (n + 1, chars)
    | none => longestName? cs n

/-- A named reference behind its ampersand. In an attribute a name without its semicolon does not count
before a letter, a digit or an equals sign. -/
def namedReference (inAttribute : Bool) (cs : List Char) : List Char × List Char :=
  let word := (cs.takeWhile Char.isAlphanum).length
  let reach := if (cs.drop word).head? = some ';' then word + 1 else word
  match longestName? cs (min reach longestEntity) with
  | none => (['&'], cs)
  | some (n, chars) =>
    let rest := cs.drop n
    let closed := (cs.take n).getLast? = some ';'
    let goesOn := match rest with
      | c :: _ => c.isAlphanum || c == '='
      | [] => false
    if inAttribute && !closed && goesOn then (['&'], cs) else (chars, rest)

/-- What the numbers from 128 to 159 stand for: they are taken as bytes of an old character set. -/
def oldBytes : List Nat :=
  [0x20AC, 0x81, 0x201A, 0x192, 0x201E, 0x2026, 0x2020, 0x2021, 0x2C6, 0x2030, 0x160, 0x2039, 0x152, 0x8D,
    0x17D, 0x8F, 0x90, 0x2018, 0x2019, 0x201C, 0x201D, 0x2022, 0x2013, 0x2014, 0x2DC, 0x2122, 0x161,
    0x203A, 0x153, 0x9D, 0x17E, 0x178]

/-- The character of a number; a number that is no character stands for the replacement character. -/
def referenceChar (n : Nat) : Char :=
  if n = 0 ∨ 0x10FFFF < n ∨ (0xD800 ≤ n ∧ n ≤ 0xDFFF) then '\uFFFD'
  else if 0x80 ≤ n ∧ n ≤ 0x9F then Char.ofNat (oldBytes[n - 0x80]?.getD n)
  else Char.ofNat n

/-- The number that digits spell, which stops growing when it can be no character any more. -/
def referenceNumber (base : Nat) (digits : List Char) : Nat :=
  digits.foldl (fun n c => if 0x10FFFF < n then n else base * n + (Text.hexValue? c).getD 0) 0

/-- Digits of a numeric reference, and an optional semicolon. -/
def numericReference (base : Nat) (isDigit : Char → Bool) (opening cs : List Char) :
    List Char × List Char :=
  match cs.takeWhile isDigit with
  | [] => (opening, cs)
  | digits =>
    let rest := cs.dropWhile isDigit
    let rest := if rest.head? = some ';' then rest.drop 1 else rest
    ([referenceChar (referenceNumber base digits)], rest)

/-- A reference behind its ampersand: the characters it stands for, and what is left. What is no reference
is an ampersand. -/
def reference (inAttribute : Bool) (cs : List Char) : List Char × List Char :=
  match cs with
  | '#' :: x :: r =>
    if x = 'x' ∨ x = 'X' then
      numericReference 16 (fun c => (Text.hexValue? c).isSome) ['&', '#', x] r
    else numericReference 10 Char.isDigit ['&', '#'] (x :: r)
  | ['#'] => (['&', '#'], [])
  | c :: _ => if c.isAlphanum then namedReference inAttribute cs else (['&'], cs)
  | [] => (['&'], [])

end LinkEmbed.Html
