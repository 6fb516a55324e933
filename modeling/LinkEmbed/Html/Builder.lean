import LinkEmbed.Html.Tree

/-!
# Building a page

The state in which tokens are put into a tree: the elements that are open, the ones that give text its
looks, and the part of a page that is being read. Elements that are open and formatting elements are listed
with the latest first.
-/

namespace LinkEmbed.Html

/-- The parts of a page, each with rules of its own for what may come next. -/
inductive Mode where
  | initial
  | beforeHtml
  | beforeHead
  | inHead
  | afterHead
  | inBody
  | inText
  | inTable
  | inTableText
  | inCaption
  | inColumns
  | inTableBody
  | inRow
  | inCell
  | inSelect
  | inSelectInTable
  | inTemplate
  | afterBody
  | inFrameset
  | afterFrameset
  | afterAfterBody
  | afterAfterFrameset
deriving DecidableEq, Repr, Inhabited

/-- An entry in the list of formatting elements. A marker keeps formatting from going on inside some
elements. -/
inductive Formatting where
  | marker
  | element (node : Nat) (name : String) (attributes : List Attribute)
deriving DecidableEq, Repr, Inhabited

/-- The state of building. -/
structure Builder where
  tree : Tree
  mode : Mode
  /-- The part to go back to behind text. -/
  returnMode : Mode := .initial
  templateModes : List Mode := []
  opened : List Nat := []
  formatting : List Formatting := []
  head : Option Nat := none
  form : Option Nat := none
  framesetAllowed : Bool := true
  /-- Nodes that may not stand in a table go before it. -/
  fostering : Bool := false
  /-- Characters in a table that wait for what follows, the latest first. -/
  tableText : List Char := []
  /-- The element that a fragment is read for. -/
  context : Option TagName := none
  model : TextModel := .markup
  skipLineFeed : Bool := false

instance : Inhabited Builder := ⟨⟨{}, .initial, .initial, [], [], [], none, none, true, false, [], none, .markup, false⟩⟩

namespace Builder

/-! ## Names -/

/-- The name of a node that is open. -/
def nameOf (b : Builder) (i : Nat) : TagName := (b.tree.name? i).getD (.html "")

/-- The name of the element opened last. -/
def currentName (b : Builder) : TagName := ((b.opened.head?).map b.nameOf).getD (.html "")

/-- The element opened last has one of some names of HTML. -/
def currentIn (b : Builder) (names : List String) : Bool :=
  b.currentName.vocabulary == .html && names.contains b.currentName.name

/-- The name that decides about vocabularies: that of the context when nothing else is open. -/
def adjustedName (b : Builder) : TagName :=
  match b.opened, b.context with
  | [_], some c => c
  | _, _ => b.currentName

/-- Whether an element of HTML of a name is open. -/
def isOpen (b : Builder) (name : String) : Bool := b.opened.any fun i => b.nameOf i == .html name

/-- Elements with rules of their own, which formatting does not reach across. -/
def specialNames : List String :=
  ["address", "applet", "area", "article", "aside", "base", "basefont", "bgsound", "blockquote", "body",
    "br", "button", "caption", "center", "col", "colgroup", "dd", "details", "dir", "div", "dl", "dt",
    "embed", "fieldset", "figcaption", "figure", "footer", "form", "frame", "frameset", "h1", "h2", "h3",
    "h4", "h5", "h6", "head", "header", "hgroup", "hr", "html", "iframe", "img", "input", "isindex", "li",
    "link", "listing", "main", "marquee", "menu", "meta", "nav", "noembed", "noframes", "noscript",
    "object", "ol", "p", "param", "plaintext", "pre", "script", "search", "section", "select", "source",
    "style", "summary", "table", "tbody", "td", "template", "textarea", "tfoot", "th", "thead", "title",
    "tr", "track", "ul", "wbr", "xmp"]

/-- Whether an element has rules of its own. -/
def isSpecial (n : TagName) : Bool := n.vocabulary == .html && specialNames.contains n.name

/-- Elements of other vocabularies inside which text and elements are those of HTML. -/
def integrationPoints : List TagName :=
  [⟨.math, "mi"⟩, ⟨.math, "mo"⟩, ⟨.math, "mn"⟩, ⟨.math, "ms"⟩, ⟨.math, "mtext"⟩, ⟨.svg, "foreignObject"⟩,
    ⟨.svg, "desc"⟩, ⟨.svg, "title"⟩]

/-! ## Scopes -/

/-- The elements that any scope ends at. -/
def endsScope (n : TagName) : Bool :=
  if n.vocabulary = .html then
    ["applet", "caption", "html", "table", "td", "th", "marquee", "object", "template"].contains n.name
  else integrationPoints.contains n

/-- The elements that the scope of a list item ends at. -/
def endsListScope (n : TagName) : Bool := endsScope n || n == .html "ol" || n == .html "ul"

/-- The elements that the scope of a button ends at. -/
def endsButtonScope (n : TagName) : Bool := endsScope n || n == .html "button"

/-- The elements that the scope of a table ends at. -/
def endsTableScope (n : TagName) : Bool :=
  n == .html "html" || n == .html "table" || n == .html "template"

/-- The elements that the scope of a selection ends at: all but two. -/
def endsSelectScope (n : TagName) : Bool := !(n == .html "optgroup" || n == .html "option")

/-- Whether an open element satisfies `p` and none opened later ends the scope. -/
def scopeHolds (b : Builder) (ends p : TagName → Bool) : Bool :=
  match b.opened.find? fun i => p (b.nameOf i) || ends (b.nameOf i) with
  | some i => p (b.nameOf i)
  | none => false

/-- Whether an element of HTML of a name is in scope. -/
def inScope (b : Builder) (ends : TagName → Bool) (name : String) : Bool :=
  b.scopeHolds ends (· == .html name)

/-! ## Closing -/

/-- Close the element opened last. -/
def pop (b : Builder) : Builder := { b with opened := b.opened.drop 1 }

/-- Close elements up to one that satisfies `p`, which stays open. -/
def popTo (b : Builder) (p : TagName → Bool) : Builder :=
  { b with opened := b.opened.dropWhile fun i => !p (b.nameOf i) }

/-- Close elements up to and with one that satisfies `p`. -/
def popThrough (b : Builder) (p : TagName → Bool) : Builder := (b.popTo p).pop

/-- Close elements up to and with one of a name of HTML. -/
def popName (b : Builder) (name : String) : Builder := b.popThrough (· == .html name)

/-- The elements whose end tags may be left out. -/
def impliedNames : List String := ["dd", "dt", "li", "optgroup", "option", "p", "rb", "rp", "rt", "rtc"]

/-- The same at the end of a template. -/
def allImpliedNames : List String :=
  impliedNames ++ ["caption", "colgroup", "tbody", "td", "tfoot", "th", "thead", "tr"]

/-- Close elements whose end tags may be left out, apart from those of one name. -/
def closeImplied (b : Builder) (kept : String) : Builder :=
  b.popTo fun n => !(n.vocabulary == .html && impliedNames.contains n.name && n.name != kept)

/-- Close a paragraph with all it holds. -/
def closeParagraph (b : Builder) : Builder := (b.closeImplied "p").popName "p"

/-- Close a paragraph if one is in the scope of a button. -/
def closeParagraphInScope (b : Builder) : Builder :=
  if b.inScope endsButtonScope "p" then b.closeParagraph else b

/-! ## Inserting -/

/-- The content of a template stands in a fragment of its own. -/
def intoTemplate (b : Builder) (p : Tree.Place) : Tree.Place :=
  match p with
  | .lastOf i => if b.nameOf i = .html "template" then .lastOf ((b.tree.content? i).getD i) else .lastOf i
  | p => p

/-- Where a node goes that may not stand in a table: into a template opened later, or before the table. -/
def fosterPlace (b : Builder) : Tree.Place :=
  match b.opened.find? fun i => b.nameOf i == .html "template" || b.nameOf i == .html "table" with
  | none => .lastOf (b.opened.getLast?.getD 0)
  | some i =>
    if b.nameOf i = .html "template" then .lastOf i
    else
      match (b.tree.node i).parent with
      | some p => .before p i
      | none => .lastOf (((b.opened.dropWhile (· != i)).drop 1).head?.getD 0)

/-- Where a new node goes, for a node that is open. -/
def placeIn (b : Builder) (target : Nat) : Tree.Place :=
  let name := b.nameOf target
  if b.fostering && name.vocabulary == .html &&
      ["table", "tbody", "tfoot", "thead", "tr"].contains name.name then
    b.intoTemplate b.fosterPlace
  else b.intoTemplate (.lastOf target)

/-- Where a new node goes. -/
def place (b : Builder) : Tree.Place := b.placeIn (b.opened.head?.getD 0)

/-- A new element without a place, and its number. A template comes with the fragment for its content. -/
def create (b : Builder) (name : TagName) (attributes : List Attribute) : Nat × Builder :=
  let i := b.tree.size
  let tree := b.tree.add (.element name attributes)
  let tree := if name = .html "template" then (tree.add .fragment).append i (i + 1) else tree
  (i, { b with tree })

/-- Open an element. -/
def insert (b : Builder) (name : TagName) (attributes : List Attribute) : Builder :=
  let place := b.place
  let (i, b) := b.create name attributes
  { b with tree := b.tree.put i place, opened := i :: b.opened }

/-- The attributes of an element of HTML. -/
def plainAttributes (attributes : List (String × String)) : List Attribute :=
  attributes.map fun (name, value) => { name, value }

/-- Open an element of HTML. -/
def insertHtml (b : Builder) (name : String) (attributes : List (String × String)) : Builder :=
  b.insert (.html name) (plainAttributes attributes)

/-- Put an element of HTML that has no content. -/
def insertVoid (b : Builder) (name : String) (attributes : List (String × String)) : Builder :=
  (b.insertHtml name attributes).pop

/-- Put a character. -/
def insertChar (b : Builder) (c : Char) : Builder := { b with tree := b.tree.putText c b.place }

/-- Put a comment at a place. -/
def commentAt (b : Builder) (text : String) (place : Tree.Place) : Builder :=
  { b with tree := (b.tree.add (.comment text)).put b.tree.size place }

/-- Put a comment. -/
def insertComment (b : Builder) (text : String) : Builder := b.commentAt text b.place

/-- Open an element whose content is text. -/
def insertText (b : Builder) (name : String) (attributes : List (String × String)) (model : TextModel) :
    Builder :=
  { b.insertHtml name attributes with returnMode := b.mode, mode := .inText, model }

/-- Give an element the attributes that it does not have yet. -/
def addAttributes (b : Builder) (i : Nat) (attributes : List (String × String)) : Builder :=
  { b with
    tree := b.tree.modify i fun n =>
      match n.kind with
      | .element name old =>
        let new := (plainAttributes attributes).filter fun a => !old.any fun o => o.name == a.name
        { n with kind := .element name (old ++ new) }
      | _ => n }

/-! ## Formatting -/

/-- Forget formatting back to the last marker. -/
def clearFormatting (b : Builder) : Builder :=
  { b with formatting := (b.formatting.dropWhile (· != .marker)).drop 1 }

/-- Mark a place that formatting does not reach across. -/
def mark (b : Builder) : Builder := { b with formatting := .marker :: b.formatting }

/-- The entries behind the last marker. -/
def recentFormatting (b : Builder) : List Formatting := b.formatting.takeWhile (· != .marker)

/-- Open the formatting elements again that were closed too early. -/
def reconstruct (b : Builder) : Builder :=
  let waits : Formatting → Bool
    | .marker => false
    -- What is open need not be opened again, and nothing before it either.
    | .element i _ _ => !b.opened.contains i
  let pending := b.formatting.takeWhile waits
  pending.reverse.foldl (fun b e =>
    match e with
    | .marker => b
    | .element _ name attributes =>
      let b := b.insert (.html name) attributes
      { b with formatting := .element (b.opened.head?.getD 0) name attributes :: b.formatting })
    { b with formatting := b.formatting.drop pending.length }

/-- Whether two lists hold the same attributes. -/
def sameAttributes (a b : List Attribute) : Bool :=
  a.length == b.length && a.all b.contains

/-- Remove the last entry of a list that satisfies `p`. -/
def removeLast {α : Type u} (p : α → Bool) (l : List α) : List α :=
  l.reverse.eraseP p |>.reverse

/-- Open a formatting element. Of elements that are alike at most three are kept. -/
def insertFormatting (b : Builder) (name : String) (attributes : List (String × String)) : Builder :=
  let attrs := plainAttributes attributes
  let alike : Formatting → Bool
    | .marker => false
    | .element _ n a => n == name && sameAttributes a attrs
  let recent := b.recentFormatting
  -- Of four that are alike the earliest goes, which comes last in the list.
  let recent := if (recent.filter alike).length ≥ 3 then removeLast alike recent else recent
  let older := b.formatting.drop b.recentFormatting.length
  let b := b.insert (.html name) attrs
  { b with formatting := .element (b.opened.head?.getD 0) name attrs :: (recent ++ older) }

/-- Forget an element as one that gives text its looks. -/
def forget (b : Builder) (i : Nat) : Builder :=
  { b with
    formatting := b.formatting.filter fun e =>
      match e with
      | .marker => true
      | .element j _ _ => i != j }

/-- The entry of an element. -/
def formattingOf? (b : Builder) (i : Nat) : Option Formatting :=
  b.formatting.find? fun e =>
    match e with
    | .marker => false
    | .element j _ _ => i == j

/-- Close an element by its end tag: the latest one of the name, unless one with rules of its own was
opened after it. -/
def closeAny (b : Builder) (name : String) : Builder :=
  match b.opened.find? fun i => b.nameOf i == .html name || isSpecial (b.nameOf i) with
  | none => b
  | some i =>
    if b.nameOf i = .html name then
      let b := b.closeImplied name
      -- The elements opened inside it are closed with it.
      { b with opened := (b.opened.dropWhile (· != i)).drop 1 }
    else b

/-- Where the entry of a formatting element goes that is split: in place of the old entry, or behind that
of another element. -/
inductive Bookmark where
  | replace
  | behind (node : Nat)

/-- Splitting under way: the state, the node moved last, the bookmark, and the open elements that are
kept between the block and the formatting element, the latest last. -/
structure Splitting where
  builder : Builder
  last : Nat
  bookmark : Bookmark
  kept : List Nat

/-- An entry with another node in place of one. -/
def replaceNode (i j : Nat) : Formatting → Formatting
  | .marker => .marker
  | .element k name attributes => .element (if k = i then j else k) name attributes

/-- One element between the block and the formatting element: it is dropped if it is no formatting element
or is too far away, and copied otherwise. -/
def splitStep (block : Nat) (s : Splitting) (step : Nat × Nat) : Splitting :=
  let (i, distance) := step
  let b := if distance > 3 then s.builder.forget i else s.builder
  match b.formattingOf? i with
  | some (.element _ name attributes) =>
    let (j, b) := b.create (.html name) attributes
    let b := { b with formatting := b.formatting.map (replaceNode i j) }
    let bookmark := if s.last = block then .behind j else s.bookmark
    { builder := { b with tree := (b.tree.detach s.last).append j s.last }, last := j, bookmark,
      kept := s.kept ++ [j] }
  | _ => { s with builder := b }

/-- Put the new entry of a formatting element where the bookmark says, and take the old one out. -/
def placeEntry (old : Nat) (new : Formatting) (bookmark : Bookmark) (l : List Formatting) :
    List Formatting :=
  let isOf (i : Nat) : Formatting → Bool
    | .marker => false
    | .element j _ _ => i == j
  match bookmark with
  | .replace => l.map fun e => if isOf old e then new else e
  | .behind i =>
    let l := l.filter fun e => !isOf old e
    l.takeWhile (fun e => !isOf i e) ++ new :: l.dropWhile fun e => !isOf i e

/-- Close a formatting element across a block inside it: the block leaves the element, and its content gets
a copy of it. The flag tells whether to look for another such element. -/
def splitOnce (b : Builder) (name : String) : Builder × Bool :=
  let found := b.recentFormatting.find? fun e =>
    match e with
    | .element _ n _ => n == name
    | .marker => false
  match found with
  | some (.element i n attributes) =>
    -- The element was closed by something else and has only its entry left.
    if !b.opened.contains i then (b.forget i, false)
    else
      let later := b.opened.takeWhile (· != i)
      let earlier := (b.opened.dropWhile (· != i)).drop 1
      if later.any fun j => endsScope (b.nameOf j) then (b, false)
      else
        match later.reverse.find? fun j => isSpecial (b.nameOf j) with
        -- Nothing inside has rules of its own, so the element can simply be closed.
        | none => ({ b with opened := earlier }.forget i, false)
        | some block =>
          let ancestor := earlier.head?.getD 0
          -- What was opened inside the block stays in it; what stands around it is split.
          let inside := later.takeWhile (· != block)
          let between := (later.dropWhile (· != block)).drop 1
          let s := (between.zipIdx 1).foldl (splitStep block) ⟨b, block, .replace, []⟩
          let b := s.builder
          let tree := b.tree.detach s.last
          let b := { b with tree }
          -- The block, with what is left around it, leaves the formatting element.
          let b := { b with tree := b.tree.put s.last (b.placeIn ancestor) }
          -- What the block holds is formatted by a copy inside the block from now on.
          let (copy, b) := b.create (.html n) attributes
          let tree := (b.tree.moveChildren block copy).append block copy
          ({ b with
              tree
              formatting := placeEntry i (.element copy n attributes) s.bookmark b.formatting
              opened := inside ++ copy :: block :: s.kept ++ earlier },
            true)
  | _ => (b.closeAny name, false)

/-- Close a formatting element, at most eight copies deep. -/
def splitAll (b : Builder) (name : String) : Nat → Builder
  | 0 => b
  | more + 1 =>
    match b.splitOnce name with
    | (b, true) => splitAll b name more
    | (b, false) => b

/-- Close a formatting element by its end tag. -/
def closeFormatting (b : Builder) (name : String) : Builder :=
  let isEntry := (b.opened.head?.bind b.formattingOf?).isSome
  if b.currentName = .html name ∧ isEntry = false then b.pop else b.splitAll name 8

/-! ## Parts of the page -/

/-- The part of a page that an open element belongs to, if the element decides it. -/
def modeOf? (b : Builder) (name : TagName) (last : Bool) (outer : List Nat) : Option Mode :=
  if name.vocabulary ≠ .html then none
  else
    match name.name with
    | "select" =>
      -- A template hides the tables around it.
      let tables := outer.takeWhile fun i => b.nameOf i != .html "template"
      if tables.any fun i => b.nameOf i == .html "table" then some .inSelectInTable else some .inSelect
    | "td" | "th" => if last then none else some .inCell
    | "tr" => some .inRow
    | "tbody" | "thead" | "tfoot" => some .inTableBody
    | "caption" => some .inCaption
    | "colgroup" => some .inColumns
    | "table" => some .inTable
    | "template" => some (b.templateModes.head?.getD .inTemplate)
    | "head" => if last then none else some .inHead
    | "body" => some .inBody
    | "frameset" => some .inFrameset
    | "html" => some (if b.head.isNone then .beforeHead else .afterHead)
    | _ => none

/-- The part of a page that follows from the elements that are open. -/
def modeFrom (b : Builder) : List Nat → Mode
  | [] => .inBody
  -- Only the outermost element is left; a fragment is read as if in its context.
  | [i] => (b.modeOf? (b.context.getD (b.nameOf i)) true []).getD .inBody
  | i :: r =>
    match b.modeOf? (b.nameOf i) false r with
    | some m => m
    | none => modeFrom b r

/-- Go to the part of the page that follows from the elements that are open. -/
def resetMode (b : Builder) : Builder := { b with mode := b.modeFrom b.opened }

/-- Close a template by its end tag. -/
def closeTemplate (b : Builder) : Builder :=
  if !b.isOpen "template" then b
  else
    let b := b.popTo fun n => !(n.vocabulary == .html && allImpliedNames.contains n.name)
    let b := (b.popName "template").clearFormatting
    { b with templateModes := b.templateModes.drop 1 }.resetMode

end Builder

/-- What looking at a token gives: a state, and whether the token has to be looked at again in it. -/
abbrev Step := Builder × Bool

/-- The token is dealt with. -/
def Builder.done (b : Builder) : Step := (b, false)

/-- The token has to be looked at again. -/
def Builder.again (b : Builder) : Step := (b, true)

/-- The token has to be looked at again in another part of the page. -/
def Builder.retry (b : Builder) (mode : Mode) : Step := ({ b with mode }, true)

end LinkEmbed.Html
