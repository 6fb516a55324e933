import LinkEmbed.Markdown.Piece

/-!
# Emphasis

Runs of stars, underscores and tildes open and close spans. Which they may do depends on the characters around
them (`Run.ofMarks`). A run that closes takes the nearest run before it that it pairs with (`Run.pairs`), as
often as marks are left; runs in between that found no partner are plain characters.
-/

namespace LinkEmbed.Markdown

/-- What the character beside a run is like. -/
inductive Flank where
  | space
  | punctuation
  | other
deriving DecidableEq

/-- The class of a character beside a run; the end of the text counts as white space. -/
def Flank.of : Option Char → Flank
  | none => .space
  | some c => if Text.isSpace c then .space else if Unicode.isPunctuation c then .punctuation else .other

namespace Run

/-- A run of marks between two characters. Marks of another kind beside a run do not keep it from opening or
closing, except with tildes. An underscore does neither inside a word. -/
def ofMarks (deletions : Bool) (mark : Char) (glyphs : List Glyph) (before after : Option Char) : Run :=
  let b := Flank.of before
  let a := Flank.of after
  let beside (c : Option Char) : Bool :=
    mark != '~' && (c == some '*' || c == some '_' || (deletions && c == some '~'))
  let opens := a = .other ∨ (a = .punctuation ∧ b ≠ .other) ∨ beside after
  let closes := b = .other ∨ (b = .punctuation ∧ a ≠ .other) ∨ beside before
  if mark = '_' then ⟨mark, glyphs, opens ∧ (b ≠ .other ∨ ¬ closes), closes ∧ (a ≠ .other ∨ ¬ opens)⟩
  else ⟨mark, glyphs, opens, closes⟩

/-- The number of marks left. -/
def size (r : Run) : Nat := r.glyphs.length

/-- Whether an opening run and a closing one make a span. If either could do both, the sum of their sizes must
not be a multiple of three, unless the closing one is; and tildes come in pairs of one size, one or two. -/
def pairs (o c : Run) : Bool :=
  let thirds := (o.closes || c.opens) && c.size % 3 != 0 && (o.size + c.size) % 3 == 0
  let tildes := c.mark == '~' && (c.size != o.size || 2 < c.size)
  o.mark == c.mark && o.opens && !thirds && !tildes

end Run

/-- An open run, with the pieces behind it, last first. -/
structure OpenRun where
  run : Run
  content : List Piece

/-- The open runs of a text, innermost first, and the pieces before all of them, last first. -/
structure Nesting where
  opened : List OpenRun := []
  base : List Piece := []

namespace Nesting

/-- Add a piece. -/
def push (n : Nesting) (p : Piece) : Nesting :=
  match n.opened with
  | [] => { n with base := p :: n.base }
  | o :: os => { n with opened := { o with content := p :: o.content } :: os }

/-- Pieces of open runs that find no partner, last first. -/
def loose (os : List OpenRun) : List Piece := os.flatMap fun o => o.content ++ [.plain o.run.glyphs]

/-- What a span is, by its mark and the number of marks on each side. -/
def branchOf (mark : Char) (taken : Nat) : Branch :=
  if mark = '~' then .delete else if taken = 1 then .emphasis else .strong

/-- Close a span with the marks of a run, as often as there is a partner. -/
def close (n : Nesting) (r : Run) : Nat → Nesting × Run
  | 0 => (n, r)
  | fuel + 1 =>
    -- Runs that were opened in between and do not match are no emphasis.
    let between := n.opened.takeWhile fun o => !o.run.pairs r
    match n.opened.drop between.length with
    | [] => (n, r)
    | o :: os =>
      -- Two characters on both sides are strong emphasis.
      let taken := if 1 < o.run.size ∧ 1 < r.size then 2 else 1
      let left := o.run.glyphs.take (o.run.size - taken)
      let marks := o.run.glyphs.drop (o.run.size - taken)
      let position : Position := ⟨Glyph.startOf marks {}, Glyph.stopOf (r.glyphs.take taken) {}⟩
      let span : Piece := .span (branchOf r.mark taken) position ((loose between ++ o.content).reverse)
      let rest : Nesting := { n with opened := os }
      let n := if left.isEmpty then rest.push span
        else { rest with opened := ⟨{ o.run with glyphs := left }, [span]⟩ :: os }
      let r := { r with glyphs := r.glyphs.drop taken }
      -- What is left of the run may close another.
      if r.glyphs.isEmpty then (n, r) else close n r fuel

/-- Take the next piece. -/
def step (n : Nesting) : Piece → Nesting
  | .run r =>
    let (n, r) := if r.closes then close n r r.size else (n, r)
    if r.glyphs.isEmpty then n
    else if r.opens then { n with opened := ⟨r, []⟩ :: n.opened }
    else n.push (.plain r.glyphs)
  | p => n.push p

/-- All pieces, once no partner can come any more. -/
def finish (n : Nesting) : List Piece := (loose n.opened ++ n.base).reverse

end Nesting

/-- Make spans of the runs of marks among pieces. -/
def emphasize (ps : List Piece) : List Piece := (ps.foldl Nesting.step {}).finish

end LinkEmbed.Markdown
