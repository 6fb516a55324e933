import LinkEmbed.Markdown.Emphasis
import LinkEmbed.Markdown.Escape
import LinkEmbed.Markdown.Extensions

/-!
# Reading a text between its blocks

One pass over a text finds what begins with a mark of its own: escapes, references, code, formulas, tags,
addresses, line ends, and brackets. Brackets wait for the closing one, which shows whether they are a link,
an image or a footnote (`Scanner.closeBracket`); if nothing comes of them they are plain characters, and what
was between them is not touched. Runs of marks are matched afterwards, inside each link first.
-/

namespace LinkEmbed.Markdown

/-- What a text is read with: the forms that are on, the labels that are defined, and whether the text is in
a table. -/
structure Context where
  extensions : Extensions
  definitions : List (List Char) := []
  footnotes : List (List Char) := []
  inTable : Bool := false

/-- What an opening bracket may open. -/
inductive BracketKind where
  | link
  | image
  | footnote
deriving DecidableEq

/-- An opening bracket. -/
structure Bracket where
  kind : BracketKind
  /-- The characters of the bracket itself. -/
  glyphs : List Glyph
  /-- Everything behind it in the text. -/
  behind : List Glyph
  /-- It may still open something. -/
  active : Bool
  /-- The pieces before it, up to the bracket around it, last first. -/
  before : List Piece

/-- A text that is being read: the open brackets, innermost first, and the pieces behind the last one, last
first. -/
structure Scanner where
  brackets : List Bracket := []
  pieces : List Piece := []

/-- A character that may begin something. -/
def isMark (x : Extensions) (c : Char) : Bool :=
  c == '\n' || c == '!' || c == '&' || c == '*' || c == '<' || c == '[' || c == ']' || c == '\\' ||
    c == '_' || c == '\x60' || c == '~' || (x.math && c == '$') || (x.components && c == '\x7b') ||
    (x.github && (c == 'h' || c == 'H' || c == 'w' || c == 'W'))

/-- A run of marks may emphasize or delete. -/
def isEmphasisMark (x : Extensions) (c : Char) : Bool := c == '*' || c == '_' || (x.github && c == '~')

/-! ## Code and formulas -/

/-- How far a text goes up to and with a run of exactly `n` marks; `run` marks stand right before it. -/
def throughRun? (mark : Char) (n run : Nat) : List Char → Option Nat
  | [] => if run = n then some 0 else none
  | c :: r =>
    -- Only a run that is neither shorter nor longer counts.
    if c = mark then (throughRun? mark n (run + 1) r).map (· + 1)
    else if run = n then some 0
    else (throughRun? mark n 0 r).map (· + 1)

/-- The content of code in a text: without one blank on either side if there is more, and with bars in tables
as they are meant. -/
def codeText (inTable : Bool) (cs : List Char) : String :=
  let shown := if inTable then unescapeBars cs else cs
  let inner := (shown.drop 1).dropLast
  if 2 < shown.length ∧ shown.head? = some ' ' ∧ shown.getLast? = some ' ' ∧ shown.any (· != ' ') then
    String.ofList inner
  else String.ofList shown
where
  /-- Drop the backslashes before bars. -/
  unescapeBars : List Char → List Char
    | '\\' :: '|' :: r => '|' :: unescapeBars r
    | c :: r => c :: unescapeBars r
    | [] => []

/-- Code or a formula that a text begins with, and its length. -/
def readCode (inTable : Bool) (mark : Char) (gs : List Glyph) : Option (Leaf × Nat) :=
  let cs := Glyph.chars gs
  let n := (cs.takeWhile (· == mark)).length
  (throughRun? mark n 0 (cs.drop n)).map fun m =>
    let value := codeText inTable (Glyph.sourceChars ((gs.drop n).take (m - n)))
    (if mark = '$' then .inlineMath value else .inlineCode value, n + m)

/-- The source of HTML without the blanks that lines begin with. -/
def dropIndents (afterLineEnd : Bool) : List Glyph → List Glyph
  | [] => []
  | g :: gs =>
    if afterLineEnd && isBlank g.char then dropIndents true gs
    else g :: dropIndents (g.char == '\n') gs

/-! ## Brackets -/

/-- Where the text of a link may lead. -/
inductive Target where
  | resource (url : String) (title : Option String)
  | reference
deriving DecidableEq

/-- The text of a part of a title or destination, with what its escapes and references stand for. -/
def partText (gs : List Glyph) (e : Extent) : String :=
  unescape (Glyph.sourceChars (Glyph.dropMargins false (e.take gs)))

/-- What stands behind the text of a link whose own label is defined or not: where it leads, and how long that
is. A label in brackets counts before the text itself as a label. -/
def readTarget (cx : Context) (defined : Bool) (gs : List Glyph) : Option (Target × Nat) :=
  let shortcut : Option (Target × Nat) := if defined then some (.reference, 0) else none
  match gs with
  | [] => shortcut
  | g :: r =>
    if g.char = '(' then
      match Resource.read? (Glyph.chars r) with
      | some s => some (.resource (partText r s.destination) (s.title.map (partText r)), s.size + 1)
      | none => shortcut
    else if g.char = '[' then
      let full := (label? (Glyph.chars r)).bind fun n =>
        if cx.definitions.contains (foldLabel (Glyph.sourceChars (r.take n))) then some (n + 2) else none
      match full with
      | some n => some (.reference, n)
      -- An empty label stands for the text itself.
      | none => if defined ∧ (r.head?.map Glyph.char) = some ']' then some (.reference, 2) else none
    else shortcut

namespace Scanner

/-- Add a piece. -/
def push (s : Scanner) (p : Piece) : Scanner := { s with pieces := p :: s.pieces }

/-- Open a bracket. -/
def openBracket (s : Scanner) (kind : BracketKind) (glyphs behind : List Glyph) : Scanner :=
  ⟨⟨kind, glyphs, behind, true, s.pieces⟩ :: s.brackets, []⟩

/-- Take the innermost bracket as plain characters. -/
def looseBracket (s : Scanner) (b : Bracket) (rest : List Bracket) : Scanner :=
  ⟨rest, s.pieces ++ .plain b.glyphs :: b.before⟩

/-- No link or footnote may begin at an outer bracket any more: links do not hold links. -/
def deactivate (bs : List Bracket) : List Bracket :=
  bs.map fun b => if b.kind = .image then b else { b with active := false }

/-- Make a piece of the innermost bracket. -/
def finishBracket (s : Scanner) (b : Bracket) (rest : List Bracket) (piece : List Piece → Piece)
    (isLink : Bool) : Scanner :=
  ⟨if isLink then deactivate rest else rest, piece (emphasize s.pieces.reverse) :: b.before⟩

/-- Take a closing bracket `g` before `gs`. Gives also how many characters more belong to what it closes. -/
def closeBracket (cx : Context) (s : Scanner) (g : Glyph) (gs : List Glyph) : Scanner × Nat :=
  match s.brackets with
  | [] => (s.push (.plain [g]), 0)
  | b :: rest =>
    let loose := ((s.looseBracket b rest).push (.plain [g]), 0)
    if !b.active then loose
    else
      let inside := b.behind.take (b.behind.length - (gs.length + 1))
      let label := foldLabel (Glyph.sourceChars inside)
      let start := Glyph.startOf b.glyphs {}
      if b.kind = .footnote ∧ cx.footnotes.contains label then
        (s.finishBracket b rest (fun _ => .leaf .footnoteReference ⟨start, g.stop⟩) false, 0)
      else
        -- What looks like a footnote but has none may still be a link whose text begins so.
        let caret := if b.kind = .footnote then ['^'] else []
        match readTarget cx (cx.definitions.contains (caret ++ label)) gs with
        | none => loose
        | some (t, n) =>
          let position : Position := ⟨start, Glyph.stopOf (gs.take n) g.stop⟩
          let opening := if b.kind = .footnote then [.plain (b.glyphs.drop 1)] else []
          let piece (content : List Piece) : Piece :=
            match b.kind, t with
            | .image, .resource url title => .image (some (url, title)) position content
            | .image, .reference => .image none position content
            | _, .resource url title => .span (.link url title) position (opening ++ content)
            | _, .reference => .span .linkReference position (opening ++ content)
          (s.finishBracket b rest piece (b.kind ≠ .image), n)

/-- All pieces, once no bracket can close any more. -/
def finish (s : Scanner) : List Piece :=
  (s.pieces ++ s.brackets.flatMap fun b => .plain b.glyphs :: b.before).reverse

end Scanner

/-! ## The pass -/

/-- What begins with a mark `g` before `gs`: a piece, and how many characters of `gs` belong to it. -/
def readMark (cx : Context) (previous : Option Char) (escaped : Bool) (g : Glyph) (gs : List Glyph) :
    Except Fault (Option (Piece × Nat)) :=
  let x := cx.extensions
  let cs := Glyph.chars gs
  let upTo (n : Nat) : Position := ⟨g.start, Glyph.stopOf (gs.take n) g.stop⟩
  if g.char = '\n' then .ok (some (.lineEnd g, 0))
  else if g.char = '\\' then
    match gs with
    | h :: _ =>
      if h.char = '\n' then .ok (some (.hardBreak ⟨g.start, g.stop⟩, 0))
      else if Unicode.isAsciiPunctuation h.char then
        .ok (some (.written (String.ofList [h.char]) ⟨h.start, h.stop⟩, 1))
      else .ok none
    | [] => .ok none
  else if g.char = '&' then
    .ok ((reference? cs).map fun (n, chars) => (.written (String.ofList chars) (upTo n), n))
  else if g.char = '\x60' ∨ g.char = '$' then
    -- The run began before this mark, and has been found to close nowhere.
    if previous = some g.char ∧ !escaped then .ok none
    else .ok ((readCode cx.inTable g.char (g :: gs)).map fun (l, n) => (.leaf l (upTo (n - 1)), n - 1))
  else if isEmphasisMark x g.char then
    let n := (cs.takeWhile (· == g.char)).length
    .ok (some (.run (.ofMarks x.github g.char (g :: gs.take n) previous (cs.drop n).head?), n))
  else if g.char = '<' then
    if x.components then
      match readTag cs with
      | .none => .ok none
      | .fault f => .error f
      | .incomplete => .error .malformedTag
      | .found t n => .ok (some (.tag t (upTo n), n))
    else
      match bracketedAddress? cs with
      | some (a, n) =>
        let inner := gs.take n
        .ok (some (.address a (Glyph.text inner) (Glyph.span inner) (upTo (n + 1)), n + 1))
      | none =>
        .ok ((inlineHtml? cs).map fun n =>
          (.leaf (.html (Glyph.text (dropIndents false (g :: gs.take n)))) (upTo n), n))
  else if g.char = '\x7b' then
    match expressionSize? 0 cs with
    | none => .error .unclosedExpression
    | some n => .ok (some (.leaf (.expression (Glyph.text (gs.take (n - 1)))) (upTo n), n))
  else
    .ok ((plainAddress? previous (g.char :: cs)).map fun (a, n) =>
      (.address a (Glyph.text (g :: gs.take (n - 1))) (upTo (n - 1)) (upTo (n - 1)), n - 1))

/-- Read a text behind a character, which may be escaped. -/
def scan (cx : Context) (previous : Option Char) (escaped : Bool) (s : Scanner) (gs : List Glyph) :
    Except Fault Scanner :=
  match gs with
  | [] => .ok s
  | g :: r =>
    let github := cx.extensions.github
    let next := r.head?.map Glyph.char
    /- Go on behind the first `n` characters of the rest. -/
    let behind (n : Nat) : Option Char := (((r.take n).getLast?.map Glyph.char).getD g.char)
    if !isMark cx.extensions g.char then scan cx (some g.char) false (s.push (.plain [g])) r
    else if g.char = '[' then
      if github ∧ next = some '^' then
        scan cx (behind 1) false (s.openBracket .footnote (g :: r.take 1) (r.drop 1)) (r.drop 1)
      else scan cx (some '[') false (s.openBracket .link [g] r) r
    else if g.char = '!' then
      -- Before a footnote, the mark is a plain character.
      if next = some '[' ∧ ¬ (github ∧ ((r.drop 1).head?.map Glyph.char) = some '^') then
        scan cx (behind 1) false (s.openBracket .image (g :: r.take 1) (r.drop 1)) (r.drop 1)
      else scan cx (some '!') false (s.push (.plain [g])) r
    else if g.char = ']' then
      let (t, n) := s.closeBracket cx g r
      scan cx (behind n) false t (r.drop n)
    else
      match readMark cx previous escaped g r with
      | .error f => .error f
      | .ok none => scan cx (some g.char) false (s.push (.plain [g])) r
      | .ok (some (p, n)) => scan cx (behind n) (g.char == '\\') (s.push p) (r.drop n)
termination_by gs.length
decreasing_by all_goals simp_wf; try omega

/-- The pieces of a text. -/
def readPieces (cx : Context) (gs : List Glyph) : Except Fault (List Piece) := do
  return emphasize (← scan cx none false {} gs).finish

/-- The nodes of a text. -/
def readText (cx : Context) (gs : List Glyph) : Except Fault (List Node) := do
  Piece.toNodes (Piece.tidyAll cx.extensions.github true (← readPieces cx gs))

/-! ## Tasks -/

/-- The length of the box that a task begins with. Something must follow it. -/
def taskBox? : List Char → Option Nat
  | '[' :: c :: ']' :: d :: r =>
    if ¬ (isGap c ∨ c = 'x' ∨ c = 'X') then none
    else if d = '\n' then some 3
    else if isBlank d ∧ (r.dropWhile isBlank).isEmpty = false then some 3
    else none
  | _ => none

/-- The nodes of the first text of a list item, and where it begins. The box of a task goes, with the one
character behind it. -/
def readTask (cx : Context) (gs : List Glyph) : Except Fault (List Node × Option Point) :=
  match if cx.extensions.github then taskBox? (Glyph.chars gs) else none with
  | none => do return (← readText cx gs, none)
  | some n => do
    let nodes ← Piece.toNodes (Piece.tidyAll true false (← readPieces cx (gs.drop n)))
    let behind := ((gs.drop n).head?.map Glyph.stop).getD {}
    match nodes with
    | .leaf (.text v) (some p) :: ns =>
      -- The character behind the box is a blank or a line end.
      let rest := v.toList.drop (if "\r\n".toList.isPrefixOf v.toList then 2 else 1)
      return (if rest.isEmpty then ns else .leaf (.text (String.ofList rest)) (some ⟨behind, p.stop⟩) :: ns,
        some behind)
    | _ => return (nodes, none)

end LinkEmbed.Markdown
