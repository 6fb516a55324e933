import LinkEmbed.Markdown.Resource

/-!
# HTML in Markdown

Tags, comments and the like stand in a text as they are. At the start of a line some of them begin a block
of HTML, which lasts up to a mark of its own, or else up to a blank line.
-/

namespace LinkEmbed.Markdown

/-- Where one is in an opening tag, behind its name. -/
inductive TagState where
  | between
  | name
  | afterName
  | beforeValue
  | quoted (mark : Char)
  | afterQuoted
  | unquoted
  | selfClosing
  | closed

namespace TagState

/-- Between attributes. -/
def stepBetween (c : Char) : Option TagState :=
  if isGap c then some .between
  else if c = '/' then some .selfClosing
  else if c.isAlpha ∨ c = ':' ∨ c = '_' then some .name
  else if c = '>' then some .closed
  else none

/-- Behind the name of an attribute. -/
def stepAfterName (c : Char) : Option TagState :=
  if isGap c then some .afterName else if c = '=' then some .beforeValue else stepBetween c

/-- A mark that no bare value of an attribute begins with. -/
def isTagMark (c : Char) : Bool := c == '<' || c == '=' || c == '\x60'

/-- Take the next character of a tag. -/
def step (s : TagState) (c : Char) : Option TagState :=
  match s with
  | .between => stepBetween c
  | .name =>
    if c.isAlphanum ∨ c = '-' ∨ c = '.' ∨ c = ':' ∨ c = '_' then some .name else stepAfterName c
  | .afterName => stepAfterName c
  | .beforeValue =>
    if isGap c then some .beforeValue
    else if c = '>' ∨ isTagMark c then none
    else if c = '"' ∨ c = '\'' then some (.quoted c)
    -- Anything else begins a value without quotes.
    else some .unquoted
  | .quoted mark => some (if c = mark then .afterQuoted else .quoted mark)
  | .afterQuoted => if isGap c ∨ c = '>' ∨ c = '/' then stepBetween c else none
  | .unquoted =>
    if c = '"' ∨ c = '\'' ∨ isTagMark c then none
    else if isGap c ∨ c = '/' ∨ c = '>' then stepBetween c
    else some .unquoted
  | .selfClosing => if c = '>' then some .closed else none
  | .closed => none

/-- The length of the rest of a tag, with its closing bracket. -/
def size? (s : TagState) : List Char → Option Nat
  | [] => none
  | c :: r =>
    match s.step c with
    | none => none
    | some .closed => some 1
    | some t => (size? t r).map (· + 1)

end TagState

/-- A character of a tag's name. -/
def isTagNameChar (c : Char) : Bool := c.isAlphanum || c == '-'

/-- The length of an opening tag behind its bracket. -/
def openingTag? (cs : List Char) : Option Nat :=
  let name := cs.takeWhile isTagNameChar
  if (cs.head?.map Char.isAlpha).getD false then
    (TagState.between.size? (cs.drop name.length)).bind fun n =>
      match cs.drop name.length with
      | c :: _ => if isGap c ∨ c = '/' ∨ c = '>' then some (name.length + n) else none
      | [] => none
  else none

/-- The length of a closing tag behind its slash. -/
def closingTag? (cs : List Char) : Option Nat :=
  let name := cs.takeWhile isTagNameChar
  let n := name.length + ((cs.drop name.length).takeWhile isGap).length
  if (cs.head?.map Char.isAlpha).getD false ∧ (cs.drop n).head? = some '>' then some (n + 1) else none

/-- How far a text goes up to and with the first occurrence of a mark. -/
def through? (mark : List Char) : List Char → Option Nat
  | [] => none
  | c :: r => if mark.isPrefixOf (c :: r) then some mark.length else (through? mark r).map (· + 1)

/-- The length of a piece of HTML behind its opening bracket. The two hyphens that open a comment may also
close it. -/
def inlineHtml? (cs : List Char) : Option Nat :=
  match cs with
  | '!' :: '-' :: '-' :: _ => (through? ['-', '-', '>'] (cs.drop 1)).map (· + 1)
  | '!' :: '[' :: _ =>
    if "![CDATA[".toList.isPrefixOf cs then (through? [']', ']', '>'] (cs.drop 8)).map (· + 8) else none
  | '!' :: c :: r => if c.isAlpha then (through? ['>'] r).map (· + 2) else none
  | '?' :: r => (through? ['?', '>'] r).map (· + 1)
  | '/' :: r => (closingTag? r).map (· + 1)
  | _ => openingTag? cs

/-- The kinds of blocks of HTML. -/
inductive HtmlKind where
  /-- An element whose content is no Markdown, up to a closing tag. -/
  | raw
  | comment
  | instruction
  | declaration
  | cdata
  /-- An element that makes a block, up to a blank line. -/
  | basic
  /-- Any tag alone in its line, up to a blank line. -/
  | complete
deriving DecidableEq

/-- Elements whose content is no Markdown. -/
def rawElements : List String := ["pre", "script", "style", "textarea"]

/-- Elements that make a block. -/
def blockElements : List String :=
  ["address", "article", "aside", "base", "basefont", "blockquote", "body", "caption", "center", "col",
    "colgroup", "dd", "details", "dialog", "dir", "div", "dl", "dt", "fieldset", "figcaption", "figure",
    "footer", "form", "frame", "frameset", "h1", "h2", "h3", "h4", "h5", "h6", "head", "header", "hr",
    "html", "iframe", "legend", "li", "link", "main", "menu", "menuitem", "nav", "noframes", "ol",
    "optgroup", "option", "p", "param", "search", "section", "summary", "table", "tbody", "td", "tfoot",
    "th", "thead", "title", "tr", "track", "ul"]

/-- Whether a closing tag of an element with raw content stands in a line. -/
def hasRawEnd (cs : List Char) : Bool :=
  rawElements.any fun name => (through? ("</" ++ name ++ ">").toList (cs.map Char.toLower)).isSome

/-- Whether a block of HTML ends in a line. -/
def HtmlKind.endsIn (k : HtmlKind) (cs : List Char) : Bool :=
  match k with
  | .raw => hasRawEnd cs
  | .comment => (through? ['-', '-', '>'] cs).isSome
  | .instruction => (through? ['?', '>'] cs).isSome
  | .declaration => cs.contains '>'
  | .cdata => (through? [']', ']', '>'] cs).isSome
  | .basic | .complete => false

/-- Whether a block of HTML lasts up to a blank line. -/
def HtmlKind.untilBlank (k : HtmlKind) : Bool := k == .basic || k == .complete

/-- The kind of a block that begins with a tag of a name, when `rest` is what stands behind the name. -/
def tagKind? (interrupting closing : Bool) (name : String) (rest whole : List Char) : Option HtmlKind :=
  let slash := rest.head? = some '/'
  if ¬ (rest.isEmpty ∨ slash ∨ (rest.head?.map fun c => isBlank c || c == '>').getD false) then none
  else if ¬ slash ∧ ¬ closing ∧ rawElements.contains name then some .raw
  else if blockElements.contains name then
    if slash ∧ (rest.drop 1).head? ≠ some '>' then none else some .basic
  else if interrupting then none
  else
    match if closing then closingTag? whole else openingTag? whole with
    | some n => if (whole.drop n).all isBlank then some .complete else none
    | none => none

/-- The kind of a block of HTML that a line begins behind an opening bracket, and whether it ends in the same
line. A tag alone in its line does not interrupt a paragraph. -/
def htmlBlock? (interrupting : Bool) (cs : List Char) : Option (HtmlKind × Bool) :=
  -- The name of a tag decides whether it begins a block, and of which kind.
  let tag (closing : Bool) (r : List Char) : Option (HtmlKind × Bool) :=
    let name := r.takeWhile isTagNameChar
    if (r.head?.map Char.isAlpha).getD false then
      let rest := r.drop name.length
      (tagKind? interrupting closing (String.ofList (name.map Char.toLower)) rest r).map fun k =>
        (k, k.endsIn rest)
    else none
  match cs with
  | '!' :: '-' :: '-' :: _ => some (.comment, HtmlKind.comment.endsIn (cs.drop 1))
  | '!' :: '[' :: _ =>
    if "![CDATA[".toList.isPrefixOf cs then some (.cdata, HtmlKind.cdata.endsIn (cs.drop 8)) else none
  | '!' :: c :: r => if c.isAlpha then some (.declaration, HtmlKind.declaration.endsIn r) else none
  | '?' :: _ => some (.instruction, HtmlKind.instruction.endsIn cs)
  | '/' :: r => tag true r
  | _ => tag false cs

end LinkEmbed.Markdown
