import LinkEmbed.Markdown.Glyph

/-!
# Destinations, titles and labels

Where a link leads stands in parentheses behind its text, or under a label in a definition. These are the
forms of both. Parts of a text are given by where they begin and how long they are (`Extent`).
-/

namespace LinkEmbed.Markdown

/-- A part of a text. -/
structure Extent where
  start : Nat
  size : Nat
deriving DecidableEq, Inhabited

/-- The characters of a part. -/
def Extent.take {α : Type u} (e : Extent) (l : List α) : List α := (l.drop e.start).take e.size

/-- The number of blanks and tabs that a text begins with. -/
def blanks (cs : List Char) : Nat := (cs.takeWhile isBlank).length

/-- The text is at the end of a line. -/
def atLineEnd : List Char → Bool
  | [] => true
  | c :: _ => c == '\n'

/-- The length of a gap that a text begins with: blanks with at most one line end among them. A line end
before a blank line makes no gap. -/
def gap (cs : List Char) : Nat :=
  let a := blanks cs
  match cs.drop a with
  | '\n' :: r => if atLineEnd (r.drop (blanks r)) then 0 else a + 1 + blanks r
  | _ => a

/-- The length of a destination in pointed brackets, up to the closing one. -/
def enclosedSize? : List Char → Option Nat
  | [] => none
  | '\\' :: d :: r =>
    if d = '<' ∨ d = '>' ∨ d = '\\' then (enclosedSize? r).map (· + 2)
    else (enclosedSize? (d :: r)).map (· + 1)
  | c :: r =>
    if c = '>' then some 0
    else if c = '\n' ∨ c = '<' then none
    else (enclosedSize? r).map (· + 1)

/-- A control character other than NUL, or a blank: a character that a bare destination does not hold. -/
def endsDestination (c : Char) : Bool := (1 ≤ c.toNat && c.toNat ≤ 0x20) || c.toNat == 0x7F

/-- The length of a bare destination, in which `depth` parentheses are open. At most `limit` parentheses may
be open at once. -/
def bareSize? (limit depth : Nat) : List Char → Option Nat
  | [] => if depth = 0 then some 0 else none
  | '\\' :: d :: r =>
    if d = '(' ∨ d = ')' ∨ d = '\\' then (bareSize? limit depth r).map (· + 2)
    else (bareSize? limit depth (d :: r)).map (· + 1)
  | c :: r =>
    if depth = 0 ∧ (isGap c ∨ c = ')') then some 0
    else if c = '(' then
      if depth < limit then (bareSize? limit (depth + 1) r).map (· + 1) else none
    else if c = ')' then (bareSize? limit (depth - 1) r).map (· + 1)
    else if endsDestination c then none
    else (bareSize? limit depth r).map (· + 1)

/-- A destination that a text begins with, and its length with its brackets. -/
def destination? (limit : Nat) : List Char → Option (Extent × Nat)
  | [] => none
  | '<' :: r => (enclosedSize? r).map fun n => (⟨1, n⟩, n + 2)
  | c :: r =>
    if endsDestination c ∨ c = ')' then none
    else (bareSize? limit 0 (c :: r)).map fun n => (⟨0, n⟩, n)

/-- The length of a title up to its closing mark. -/
def titleSize? (mark : Char) : List Char → Option Nat
  | [] => none
  | '\\' :: d :: r =>
    if d = mark ∨ d = '\\' then (titleSize? mark r).map (· + 2)
    else (titleSize? mark (d :: r)).map (· + 1)
  | c :: r => if c = mark then some 0 else (titleSize? mark r).map (· + 1)

/-- A title that a text begins with, and its length with its marks. -/
def title? : List Char → Option (Extent × Nat)
  | [] => none
  | c :: r =>
    if c = '"' ∨ c = '\'' ∨ c = '(' then
      (titleSize? (if c = '(' then ')' else c) r).map fun n => (⟨1, n⟩, n + 2)
    else none

/-- Where a link leads, behind its text: destination, title, and the length of the whole. -/
structure Resource where
  destination : Extent
  title : Option Extent
  size : Nat

namespace Resource

/-- Parentheses that may be open at once in the destination of a link. -/
def deepest : Nat := 32

/-- The rest of a resource from index `n` on: a gap, and the closing parenthesis. -/
def close? (destination : Extent) (title : Option Extent) (cs : List Char) (n : Nat) : Option Resource :=
  let m := n + gap (cs.drop n)
  if (cs.drop m).head? = some ')' then some ⟨destination, title, m + 1⟩ else none

/-- A resource behind its opening parenthesis. -/
def read? (cs : List Char) : Option Resource :=
  let a := gap cs
  if (cs.drop a).head? = some ')' then some ⟨⟨a, 0⟩, none, a + 1⟩
  else
    match destination? deepest (cs.drop a) with
    | none => none
    | some (d, n) =>
      let b := a + n
      let g := gap (cs.drop b)
      let destination : Extent := ⟨a + d.start, d.size⟩
      match if 0 < g then title? (cs.drop (b + g)) else none with
      | some (t, m) => close? destination (some ⟨b + g + t.start, t.size⟩) cs (b + g + m)
      | none => close? destination none cs b

end Resource

/-- The length of a label up to its closing bracket. -/
def labelSize? : List Char → Option Nat
  | [] => none
  | '\\' :: d :: r =>
    if d = '[' ∨ d = ']' ∨ d = '\\' then (labelSize? r).map (· + 2)
    else (labelSize? (d :: r)).map (· + 1)
  | c :: r =>
    if c = ']' then some 0
    else if c = '[' then none
    else (labelSize? r).map (· + 1)

/-- The longest label, in bytes. -/
def longestLabel : Nat := 999

/-- A label behind its opening bracket: its length up to the closing one. A label is not blank. -/
def label? (cs : List Char) : Option Nat :=
  match labelSize? cs with
  | none => none
  | some n =>
    let inner := cs.take n
    if inner.all isGap ∨ longestLabel < (String.ofList inner).utf8ByteSize then none else some n

/-- A definition: its label, and its length up to the end of its last line. -/
structure Definition where
  label : Extent
  size : Nat

namespace Definition

/-- The end of a definition from index `n` on: blanks up to the end of the line. -/
def end? (cs : List Char) (n : Nat) : Option Nat :=
  let m := n + blanks (cs.drop n)
  if atLineEnd (cs.drop m) then some m else none

/-- The end of a definition with a title behind index `n`. -/
def titled? (cs : List Char) (n : Nat) : Option Nat :=
  match gap (cs.drop n) with
  | 0 => none
  | g + 1 =>
    match title? (cs.drop (n + g + 1)) with
    | none => none
    | some (_, t) => end? cs (n + g + 1 + t)

/-- A definition that a text begins with. What looks like a title but does not end its line belongs to what
follows. -/
def read? (cs : List Char) : Option Definition :=
  let a := blanks cs
  match cs.drop a with
  | '[' :: r =>
    match label? r with
    | none => none
    | some n =>
      if (r.drop (n + 1)).head? = some ':' then
        let b := a + n + 3
        let c := b + gap (cs.drop b)
        match destination? cs.length (cs.drop c) with
        | none => none
        | some (_, m) =>
          match titled? cs (c + m) with
          | some e => some ⟨⟨a + 1, n⟩, e⟩
          | none => (end? cs (c + m)).map fun e => ⟨⟨a + 1, n⟩, e⟩
      else none
  | _ => none

end Definition

end LinkEmbed.Markdown
