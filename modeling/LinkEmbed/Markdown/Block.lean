import LinkEmbed.Markdown.Basic
import LinkEmbed.Markdown.Component
import LinkEmbed.Markdown.Escape
import LinkEmbed.Markdown.Extensions
import LinkEmbed.Markdown.Table

/-!
# Blocks

What a text consists of before the texts in it are read: containers, which hold other blocks, and leaves, some
of which hold a text. Here are the blocks and how each of them begins in a line, and the containers and how
they go on.
-/

namespace LinkEmbed.Markdown

/-- A block. -/
inductive Block where
  | quote (position : Position) (content : List Block)
  | item (mark : Char) (number : Option Nat) (position : Position) (content : List Block)
  | footnote (label : List Char) (position : Position) (content : List Block)
  | paragraph (text : List Glyph)
  | heading (depth : Nat) (position : Position) (text : List Glyph)
  | table (position : Position) (rows : List Row)
  | definition (label : List Char) (position : Position)
  | leaf (leaf : Leaf) (position : Position)
  | tag (tag : Tag) (position : Position)
deriving Inhabited

/-- The line is blank. -/
def isBlankLine (gs : List Glyph) : Bool := gs.all fun g => isBlank g.char

/-- The number of columns that characters are indented by. -/
def indentOf (gs : List Glyph) : Nat := blanks (Glyph.chars gs)

/-- Characters behind an indent, unless it is so wide that it makes code. -/
def behindIndent? (x : Extensions) (gs : List Glyph) : Option (List Glyph) :=
  let n := indentOf gs
  if n < Glyph.tabStop ∨ x.components then some (gs.drop n) else none

/-! ## Containers -/

/-- An open container. -/
inductive Container where
  | quote
  /-- An item of a list, with the columns that its lines are indented by. -/
  | item (mark : Char) (number : Option Nat) (indent : Nat) (startsBlank : Bool)
  | footnote (label : List Char)

namespace Container

/-- The block of a container that is closed. -/
def toBlock (c : Container) (position : Position) (content : List Block) : Block :=
  match c with
  | .quote => .quote position content
  | .item mark number _ _ => .item mark number position content
  | .footnote label => .footnote label position content

/-- The rest of a line behind the mark of a quote. -/
def behindQuoteMark? (x : Extensions) (gs : List Glyph) : Option (List Glyph) :=
  match behindIndent? x gs with
  | some (g :: r) =>
    if g.char = '>' then some (if 0 < indentOf r then r.drop 1 else r) else none
  | _ => none

/-- The rest of a line indented by `n` columns; a blank line goes on whatever its indent. -/
def behindColumns? (n : Nat) (gs : List Glyph) : Option (List Glyph) :=
  if isBlankLine gs ∨ n ≤ indentOf gs then some (gs.drop (min n (indentOf gs))) else none

/-- The rest of a line that a container goes on in. An item that begins with a blank line holds no second
one. -/
def continue? (x : Extensions) (c : Container) (gs : List Glyph) : Option (Container × List Glyph) :=
  match c with
  | .quote => (behindQuoteMark? x gs).map fun r => (.quote, r)
  | .item mark number indent startsBlank =>
    if startsBlank ∧ isBlankLine gs then none
    else (behindColumns? indent gs).map fun r => (.item mark number indent false, r)
  | .footnote label => (behindColumns? Glyph.tabStop gs).map fun r => (.footnote label, r)

end Container

/-- A line of three marks or more, and nothing else. -/
def isThematicBreak (gs : List Glyph) : Bool :=
  match (Glyph.chars gs).filter fun c => !isBlank c with
  | [] => false
  | c :: r => (c == '*' || c == '-' || c == '_') && 2 ≤ r.length && r.all (· == c)

/-- An item of a list behind its mark, which takes `width` columns of the line. Nothing that follows may be
part of a paragraph that the item interrupts. -/
def itemBehind? (interrupting : Bool) (mark : Char) (number : Option Nat) (width : Nat) (gs : List Glyph) :
    Option (Container × List Glyph) :=
  let n := indentOf gs
  if isBlankLine gs then
    if interrupting then none else some (.item mark number (width + 1) true, gs)
  else if n = 0 then none
  else
    let m := if n ≤ Glyph.tabStop then n else 1
    some (.item mark number (width + m) false, gs.drop m)

/-- The longest number of an item. -/
def longestNumber : Nat := 9

/-- An item of a list that a line begins. Only one with the number 1 interrupts a paragraph. -/
def item? (x : Extensions) (interrupting : Bool) (gs : List Glyph) : Option (Container × List Glyph) :=
  let indent := indentOf gs
  match behindIndent? x gs with
  | some (g :: r) =>
    if g.char = '+' ∨ ((g.char = '*' ∨ g.char = '-') ∧ !isThematicBreak (g :: r)) then
      itemBehind? interrupting g.char none (indent + 1) r
    else
      let digits := (Glyph.chars (g :: r)).takeWhile Char.isDigit
      match (g :: r).drop digits.length with
      | m :: rest =>
        -- A list that interrupts a paragraph begins with one.
        if 0 < digits.length ∧ digits.length ≤ longestNumber ∧ (m.char = '.' ∨ m.char = ')') ∧
            (interrupting → digits = ['1']) then
          let number := digits.foldl (fun n c => 10 * n + (c.toNat - '0'.toNat)) 0
          itemBehind? interrupting m.char (some number) (indent + digits.length + 1) rest
        else none
      | [] => none
  | _ => none

/-- A definition of a footnote that a line begins. Its label holds no blanks. -/
def footnote? (x : Extensions) (gs : List Glyph) : Option (Container × List Glyph) :=
  match if x.github then behindIndent? x gs else none with
  | some (g :: h :: r) =>
    match if g.char = '[' ∧ h.char = '^' then label? (Glyph.chars r) else none with
    | some n =>
      let label := r.take n
      let rest := r.drop (n + 1)
      if label.all (fun g => !isGap g.char) ∧ (rest.head?.map Glyph.char) = some ':' then
        let rest := rest.drop 1
        some (.footnote (foldLabel (Glyph.sourceChars label)), rest.drop (indentOf rest))
      else none
    | none => none
  | _ => none

/-- A container that a line begins. -/
def container? (x : Extensions) (interrupting : Bool) (gs : List Glyph) : Option (Container × List Glyph) :=
  match Container.behindQuoteMark? x gs with
  | some r => some (.quote, r)
  | none =>
    match item? x interrupting gs with
    | some found => some found
    | none => footnote? x gs

/-! ## Leaves -/

/-- A blank, a tab, or the mark of a heading. -/
def isHeadingMargin (c : Char) : Bool := isBlank c || c == '#'

/-- The text of a heading: without the marks it begins with, and without words at its end that are marks
only. Marks at the end of another word belong to it. -/
def headingText (gs : List Glyph) : List Glyph :=
  let front := gs.dropWhile fun g => isHeadingMargin g.char
  let text := Text.dropTrailing (fun g => isHeadingMargin g.char) front
  text ++ (front.drop text.length).takeWhile fun g => g.char == '#'

/-- A heading that a line begins: its depth and its text. -/
def heading? (gs : List Glyph) : Option (Nat × List Glyph) :=
  let n := ((Glyph.chars gs).takeWhile (· == '#')).length
  let rest := gs.drop n
  if 1 ≤ n ∧ n ≤ 6 ∧ (isBlankLine rest ∨ 0 < indentOf rest) then some (n, headingText rest) else none

/-- The depth of a heading that a line under it makes of a paragraph. -/
def underline? (x : Extensions) (gs : List Glyph) : Option Nat :=
  match behindIndent? x gs with
  | some (g :: r) =>
    let line := Text.dropTrailing isBlank (Glyph.chars (g :: r))
    if (g.char = '=' ∨ g.char = '-') ∧ line.all (· == g.char) then some (if g.char = '=' then 1 else 2)
    else none
  | _ => none

/-- A fence before a block of code or a formula. -/
structure Fence where
  mark : Char
  size : Nat
  indent : Nat
  info : List Glyph

/-- The fewest marks that make a fence. -/
def Fence.least (mark : Char) : Nat := if mark = '$' then 2 else 3

/-- A fence that a line begins behind an indent. Marks of code and formulas do not occur again behind the
fence, lest the line be code in a text. -/
def fence? (x : Extensions) (indent : Nat) (gs : List Glyph) : Option Fence :=
  match gs with
  | [] => none
  | g :: _ =>
    let mark := g.char
    let n := ((Glyph.chars gs).takeWhile (· == mark)).length
    let info := (gs.drop n).drop (indentOf (gs.drop n))
    if (mark = '\x60' ∨ mark = '~' ∨ (x.math ∧ mark = '$')) ∧ Fence.least mark ≤ n ∧
        (mark = '~' ∨ info.all fun g => g.char != mark) then
      some ⟨mark, n, indent, info⟩
    else none

namespace Fence

/-- A line closes a block that a fence opens. -/
def isClosedBy (x : Extensions) (f : Fence) (gs : List Glyph) : Bool :=
  match behindIndent? x gs with
  | none => false
  | some r =>
    let n := ((Glyph.chars r).takeWhile (· == f.mark)).length
    f.size ≤ n && isBlankLine (r.drop n)

/-- The leaf of a block behind a fence. The first word behind the fence is the language of code. -/
def leaf (f : Fence) (value : String) : Leaf :=
  if f.mark = '$' then .math value
  else
    let word := f.info.takeWhile fun g => !isBlank g.char
    .code (if word.isEmpty then none else some (unescape (Glyph.sourceChars word))) value

end Fence

end LinkEmbed.Markdown
