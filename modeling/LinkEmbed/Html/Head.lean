import LinkEmbed.Html.Builder

/-!
# The front of a page

The rules for what stands before the body: the outermost element, the head with its title, styles, scripts
and links, and templates, which follow the same rules wherever they stand.
-/

namespace LinkEmbed.Html

/-- White space between elements. -/
def isFiller (c : Char) : Bool := Lexer.isBlank c || c == '\r'

namespace Builder

/-- The attributes of a later `html` tag are added to the outermost element. -/
def mergeRoot (b : Builder) (attributes : List (String × String)) : Builder :=
  if b.isOpen "template" then b
  else
    match b.opened.getLast? with
    | some root => b.addAttributes root attributes
    | none => b

/-- Put the outermost element. -/
def createRoot (b : Builder) (attributes : List (String × String)) : Builder :=
  let (i, b) := b.create (.html "html") (plainAttributes attributes)
  { b with tree := b.tree.append 0 i, opened := [i] }

/-- The ends of elements that are never left out make up for what is missing before them. -/
def endsFront (name : String) : Bool := ["head", "body", "html", "br"].contains name

/-- Before anything else: white space does not count. -/
def inInitial (b : Builder) (t : Token) : Step :=
  match t with
  | .char c => if isFiller c then b.done else b.retry .beforeHtml
  | .comment text => (b.commentAt text (.lastOf 0)).done
  | .doctype => { b with mode := .beforeHtml }.done
  | _ => b.retry .beforeHtml

/-- Before the outermost element. -/
def inBeforeHtml (b : Builder) (t : Token) : Step :=
  let missing := ({ b.createRoot [] with mode := .beforeHead }, true)
  match t with
  | .char c => if isFiller c then b.done else missing
  | .comment text => (b.commentAt text (.lastOf 0)).done
  | .startTag "html" attributes _ => { b.createRoot attributes with mode := .beforeHead }.done
  | .endTag name => if endsFront name then missing else b.done
  | .doctype => b.done
  | _ => missing

/-- Open the head. -/
def openHead (b : Builder) (attributes : List (String × String)) : Builder :=
  let b := b.insertHtml "head" attributes
  { b with head := b.opened.head?, mode := .inHead }

/-- Before the head. -/
def inBeforeHead (b : Builder) (t : Token) : Step :=
  match t with
  | .char c => if isFiller c then b.done else (b.openHead []).again
  | .comment text => (b.insertComment text).done
  | .startTag "html" attributes _ => (b.mergeRoot attributes).done
  | .startTag "head" attributes _ => (b.openHead attributes).done
  | .endTag name => if endsFront name then (b.openHead []).again else b.done
  | .doctype => b.done
  | _ => (b.openHead []).again

/-- Elements that belong into the head wherever they stand. -/
def headNames : List String :=
  ["base", "basefont", "bgsound", "link", "meta", "noframes", "script", "style", "template", "title"]

/-- Open an element that belongs into the head. -/
def openInHead (b : Builder) (name : String) (attributes : List (String × String)) : Builder :=
  match name with
  | "title" => b.insertText name attributes (.escapable name)
  | "noframes" | "style" | "noscript" => b.insertText name attributes (.raw name)
  | "script" => b.insertText name attributes .script
  | "template" =>
    let b := (b.insertHtml name attributes).mark
    { b with framesetAllowed := false, mode := .inTemplate, templateModes := .inTemplate :: b.templateModes }
  | _ => b.insertVoid name attributes

/-- In the head. -/
def inHead (b : Builder) (t : Token) : Step :=
  let leave := b.pop.retry .afterHead
  match t with
  | .char c => if isFiller c then (b.insertChar c).done else leave
  | .comment text => (b.insertComment text).done
  | .startTag "html" attributes _ => (b.mergeRoot attributes).done
  | .startTag "head" _ _ => b.done
  | .startTag name attributes _ =>
    if headNames.contains name || name == "noscript" then (b.openInHead name attributes).done else leave
  | .endTag "head" => { b.pop with mode := .afterHead }.done
  | .endTag "template" => b.closeTemplate.done
  -- End tags of the elements around the body end the head, and all others are errors.
  | .endTag name => if endsFront name then leave else b.done
  | .doctype => b.done
  | .endOfText => leave

/-- Behind the head. Elements that belong into the head are put there. -/
def inAfterHead (b : Builder) (t : Token) : Step :=
  let openBody := (b.insertHtml "body" []).retry .inBody
  match t with
  | .char c => if isFiller c then (b.insertChar c).done else openBody
  | .comment text => (b.insertComment text).done
  | .startTag "html" attributes _ => (b.mergeRoot attributes).done
  | .startTag "body" attributes _ =>
    { b.insertHtml "body" attributes with framesetAllowed := false, mode := .inBody }.done
  | .startTag "frameset" attributes _ => { b.insertHtml "frameset" attributes with mode := .inFrameset }.done
  | .startTag "head" _ _ => b.done
  | .startTag name attributes _ =>
    if headNames.contains name then
      -- It still belongs to the head, which is opened again for it alone.
      let head := b.head.getD 0
      let b := { b with opened := head :: b.opened }.openInHead name attributes
      { b with opened := b.opened.filter (· != head) }.done
    else openBody
  | .endTag "template" => b.closeTemplate.done
  | .endTag name => if endsFront name then openBody else b.done
  | .doctype => b.done
  | .endOfText => openBody

/-- In an element whose content is text. -/
def inText (b : Builder) (t : Token) : Step :=
  match t with
  | .char c => (b.insertChar c).done
  | .endOfText => b.pop.retry b.returnMode
  | .endTag _ => { b.pop with mode := b.returnMode, model := .markup }.done
  | _ => b.done

end Builder

end LinkEmbed.Html
