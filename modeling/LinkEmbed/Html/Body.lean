import LinkEmbed.Html.Foreign

/-!
# The body of a page

The rules for text, blocks, lists, formatting and controls.
-/

namespace LinkEmbed.Html

/-- Elements that end a paragraph and hold other content. -/
def blockNames : List String :=
  ["address", "article", "aside", "blockquote", "center", "details", "dialog", "dir", "div", "dl",
    "fieldset", "figcaption", "figure", "footer", "header", "hgroup", "main", "menu", "nav", "ol", "p",
    "search", "section", "summary", "ul"]

/-- Elements whose end tags close all they hold. -/
def closingNames : List String :=
  ["address", "article", "aside", "blockquote", "button", "center", "details", "dialog", "dir", "div",
    "dl", "fieldset", "figcaption", "figure", "footer", "header", "hgroup", "listing", "main", "menu", "nav",
    "ol", "pre", "search", "section", "summary", "ul"]

/-- Headings. -/
def headingNames : List String := ["h1", "h2", "h3", "h4", "h5", "h6"]

/-- Elements that give text its looks, apart from `a` and `nobr`. -/
def formattingNames : List String :=
  ["b", "big", "code", "em", "font", "i", "s", "small", "strike", "strong", "tt", "u"]

/-- Elements with content of their own that formatting does not reach into. -/
def markedNames : List String := ["applet", "marquee", "object"]

/-- Elements without content that stand in text. -/
def voidNames : List String := ["area", "br", "embed", "img", "keygen", "wbr", "input"]

/-- Elements without content that do not stand in text. -/
def bareVoidNames : List String := ["param", "source", "track"]

/-- Elements that only stand in tables, framesets and the like. -/
def misplacedNames : List String :=
  ["caption", "col", "colgroup", "frame", "head", "tbody", "td", "tfoot", "th", "thead", "tr"]

/-- Whether a control is hidden. -/
def isHidden (attributes : List (String × String)) : Bool :=
  attributes.any fun a => a.1 == "type" && a.2.map Char.toLower == "hidden"

namespace Builder

/-- A character in the body. -/
def charInBody (b : Builder) (c : Char) : Builder :=
  if c = '\x00' then b
  else
    let b := b.reconstruct
    let b := if isFiller c then b else { b with framesetAllowed := false }
    b.insertChar c

/-- The body, when the element opened second is one. -/
def body? (b : Builder) : Option Nat :=
  match b.opened.reverse with
  | _ :: i :: _ => if b.nameOf i = .html "body" then some i else none
  | _ => none

/-- A later `body` tag adds its attributes to the body. -/
def mergeBody (b : Builder) (attributes : List (String × String)) : Builder :=
  match b.body? with
  | some i => if b.isOpen "template" then b else { b.addAttributes i attributes with framesetAllowed := false }
  | none => b

/-- A frameset takes the place of a body that holds nothing yet. -/
def replaceBody (b : Builder) (attributes : List (String × String)) : Builder :=
  match b.framesetAllowed, b.body? with
  | true, some i =>
    let b := { b with tree := b.tree.detach i, opened := b.opened.drop (b.opened.length - 1) }
    { b.insertHtml "frameset" attributes with mode := .inFrameset }
  | _, _ => b

/-- A new item ends the item before it in the same list. -/
def closeItem (b : Builder) (names : List String) : Builder :=
  -- These three do not keep an item from ending, though they have rules of their own.
  let stops (n : TagName) : Bool := isSpecial n && !(["address", "div", "p"].contains n.name)
  let isItem (n : TagName) : Bool := n.vocabulary == .html && names.contains n.name
  match b.opened.find? fun i => isItem (b.nameOf i) || stops (b.nameOf i) with
  | none => b
  | some i =>
    let n := b.nameOf i
    if isItem n then (b.closeImplied n.name).popName n.name else b

/-- A form, unless one is open. -/
def openForm (b : Builder) (attributes : List (String × String)) : Builder :=
  let inTemplate := b.isOpen "template"
  if b.form.isSome && !inTemplate then b
  else
    let b := b.closeParagraphInScope.insertHtml "form" attributes
    -- Forms in templates are not noted, so they may stand inside each other.
    if inTemplate then b else { b with form := b.opened.head? }

/-- The end of a form. Elements that are open inside it stay open. -/
def closeForm (b : Builder) : Builder :=
  if b.isOpen "template" then
    if b.inScope endsScope "form" then (b.closeImplied "").popName "form" else b
  else
    match b.form with
    | none => b
    | some i =>
      let b := { b with form := none }
      match b.opened.find? fun j => j == i || endsScope (b.nameOf j) with
      | some j =>
        if j = i then
          let b := b.closeImplied ""
          -- Whatever was opened inside the form goes on.
          { b with opened := b.opened.filter (· != i) }
        else b
      | none => b

/-- A link ends the link before it. -/
def closeLink (b : Builder) : Builder :=
  let found := b.recentFormatting.find? fun e =>
    match e with
    | .element i _ _ => b.nameOf i == .html "a"
    | .marker => false
  match found with
  | some (.element i _ _) =>
    let b := (b.closeFormatting "a").forget i
    -- Splitting may have left the element open.
    { b with opened := b.opened.filter (· != i) }
  | _ => b

/-- A start tag in the body. -/
def startInBody (b : Builder) (name : String) (attributes : List (String × String)) (selfClosing : Bool) :
    Builder :=
  let block (b : Builder) := b.closeParagraphInScope.insertHtml name attributes
  let inline (b : Builder) := b.reconstruct.insertHtml name attributes
  let settled (b : Builder) : Builder := { b with framesetAllowed := false }
  if headNames.contains name then b.openInHead name attributes
  else if blockNames.contains name then block b
  else if headingNames.contains name then
    let b := b.closeParagraphInScope
    (if b.currentIn headingNames then b.pop else b).insertHtml name attributes
  else if formattingNames.contains name then b.reconstruct.insertFormatting name attributes
  else if markedNames.contains name then settled (inline b).mark
  else if voidNames.contains name then
    let b' := b.reconstruct.insertVoid name attributes
    -- A hidden control cannot be seen, so a frameset may still take the place of the body.
    if name = "input" ∧ isHidden attributes = true then b' else settled b'
  else if bareVoidNames.contains name then b.insertVoid name attributes
  else if misplacedNames.contains name then b
  else
    match name with
    | "html" => b.mergeRoot attributes
    | "body" => b.mergeBody attributes
    | "frameset" => b.replaceBody attributes
    | "pre" | "listing" => { settled (block b) with skipLineFeed := true }
    | "form" => b.openForm attributes
    | "li" => block ((settled b).closeItem ["li"])
    | "dd" | "dt" => block ((settled b).closeItem ["dd", "dt"])
    | "plaintext" => { block b with model := .plain }
    | "button" =>
      let b := if b.inScope endsScope "button" then (b.closeImplied "").popName "button" else b
      settled (inline b)
    | "a" => b.closeLink.reconstruct.insertFormatting name attributes
    | "nobr" =>
      let b := b.reconstruct
      let b := if b.inScope endsScope "nobr" then (b.closeFormatting "nobr").reconstruct else b
      b.insertFormatting name attributes
    | "table" => { settled (block b) with mode := .inTable }
    | "hr" => settled (b.closeParagraphInScope.insertVoid name attributes)
    | "image" => settled (b.reconstruct.insertVoid "img" attributes)
    | "textarea" => { (settled b).insertText name attributes (.escapable name) with skipLineFeed := true }
    | "xmp" => (settled b.closeParagraphInScope.reconstruct).insertText name attributes (.raw name)
    | "iframe" => (settled b).insertText name attributes (.raw name)
    | "noembed" | "noscript" => b.insertText name attributes (.raw name)
    | "select" =>
      let inTable := [Mode.inTable, .inCaption, .inTableBody, .inRow, .inCell].contains b.mode
      { settled (inline b) with mode := if inTable then .inSelectInTable else .inSelect }
    | "optgroup" | "option" => inline (if b.currentIn ["option"] then b.pop else b)
    | "rb" | "rtc" =>
      (if b.inScope endsScope "ruby" then b.closeImplied "" else b).insertHtml name attributes
    | "rp" | "rt" =>
      (if b.inScope endsScope "ruby" then b.closeImplied "rtc" else b).insertHtml name attributes
    | "math" => b.reconstruct.insertForeign .math name attributes selfClosing
    | "svg" => b.reconstruct.insertForeign .svg name attributes selfClosing
    | _ => inline b

/-- An end tag in the body. -/
def endInBody (b : Builder) (name : String) : Step :=
  let closed := (b.closeImplied "").popName name
  if closingNames.contains name then (if b.inScope endsScope name then closed else b).done
  else if headingNames.contains name then
    let isHeading (n : TagName) : Bool := n.vocabulary == .html && headingNames.contains n.name
    (if b.scopeHolds endsScope isHeading then (b.closeImplied "").popThrough isHeading else b).done
  else if name = "a" ∨ name = "nobr" ∨ formattingNames.contains name = true then (b.closeFormatting name).done
  else if markedNames.contains name then
    (if b.inScope endsScope name then closed.clearFormatting else b).done
  else
    match name with
    | "template" => b.closeTemplate.done
    | "body" => (if b.inScope endsScope "body" then { b with mode := .afterBody } else b).done
    | "html" => if b.inScope endsScope "body" then b.retry .afterBody else b.done
    | "form" => b.closeForm.done
    | "p" =>
      -- Without a paragraph to end, the tag stands for an empty one.
      (if b.inScope endsButtonScope "p" then b else b.insertHtml "p" []).closeParagraph.done
    | "li" => (if b.inScope endsListScope "li" then (b.closeImplied "li").popName "li" else b).done
    | "dd" | "dt" => (if b.inScope endsScope name then (b.closeImplied name).popName name else b).done
    | "br" => (b.startInBody "br" [] false).done
    | _ => (b.closeAny name).done

/-- The end of the text closes templates one by one. -/
def endInTemplate (b : Builder) : Step :=
  if b.isOpen "template" then
    let b := (b.popName "template").clearFormatting
    { b with templateModes := b.templateModes.drop 1 }.resetMode.again
  else b.done

/-- In the body. -/
def inBody (b : Builder) (t : Token) : Step :=
  match t with
  | .char c => (b.charInBody c).done
  | .comment text => (b.insertComment text).done
  | .startTag name attributes selfClosing => (b.startInBody name attributes selfClosing).done
  | .endTag name => b.endInBody name
  | .endOfText => if b.templateModes.isEmpty then b.done else b.endInTemplate
  | .doctype => b.done

/-- In the content of a template: what comes first decides which rules hold. -/
def inTemplate (b : Builder) (t : Token) : Step :=
  let follow (mode : Mode) : Step :=
    { b with templateModes := mode :: b.templateModes.drop 1 }.retry mode
  match t with
  | .char c => (b.charInBody c).done
  | .comment text => (b.insertComment text).done
  | .startTag name attributes _ =>
    -- The first element that is not of the head says what the template is a template of.
    if headNames.contains name then (b.openInHead name attributes).done
    else if ["caption", "colgroup", "tbody", "tfoot", "thead"].contains name then follow .inTable
    else if name = "col" then follow .inColumns
    else if name = "tr" then follow .inTableBody
    else if name = "td" ∨ name = "th" then follow .inRow
    else follow .inBody
  | .endTag name => (if name = "template" then b.closeTemplate else b).done
  | .endOfText => b.endInTemplate
  | .doctype => b.done

end Builder

end LinkEmbed.Html
