import LinkEmbed.Document.Basic
import LinkEmbed.Markup.Render

/-!
# Writing documents

Documents as HTML text. A link is written as an anchor or, once an embed is committed, as the embed; every
other kind of node is written as the element that is usual for it.
-/

namespace LinkEmbed.Render

/-- How a kind of node is written. -/
inductive Shape where
  /-- Nothing at all. -/
  | nothing
  /-- A text as it is. -/
  | verbatim (value : String)
  /-- A text with its special characters as references. -/
  | escaped (value : String)
  /-- A void element. -/
  | void (tag : String) (attributes : Properties)
  /-- Start tags from the outside in, a text, and the end tags. -/
  | literal (tags : List (String × Properties)) (value : String)
  /-- An element around the content. -/
  | container (tag : String) (attributes : Properties)
  /-- The content alone. -/
  | content

/-- The containers that are always the same element. -/
def plainContainer? : String → Option String
  | "list" => some "ul"
  | "listItem" => some "li"
  | "blockquote" => some "blockquote"
  | "emphasis" => some "em"
  | "strong" => some "strong"
  | "delete" => some "del"
  | "table" => some "table"
  | "tableRow" => some "tr"
  | "tableCell" => some "td"
  | _ => none

/-- The depth of a heading, brought between 1 and 6; a heading that gives none has depth 1. -/
def headingDepth (p : Properties) : Int :=
  match p.get? "depth" with
  | some (.integer n) => max 1 (min n 6)
  | _ => 1

/-- The number an ordered list starts at, unless it is 1. -/
def listStart (p : Properties) : Scalar :=
  match p.get? "start" with
  | some (.integer n) => if n = 1 then .null else .integer n
  | _ => .null

/-- The container element of a kind, with its attributes. -/
def container? (info : Generic) : Option (String × Properties) :=
  if info.kind = "heading" then some ("h" ++ toString (headingDepth info.properties), .empty)
  else if info.kind = "list" ∧ info.properties.get? "ordered" = some (.bool true) then
    some ("ol", .ofList [("start", listStart info.properties)])
  else (plainContainer? info.kind).map fun tag => (tag, .empty)

/-- The class of the element of a code block in a named language. -/
def languageClass (p : Properties) : Scalar :=
  .ofText? ((p.getText? "lang").map ("language-" ++ ·))

/-- The attributes of an image: source, a text in its place (empty without one) and title. -/
def imageAttributes (p : Properties) : Properties :=
  .ofList
    [("src", .ofText? (p.getText? "src")), ("alt", .text ((p.getText? "alt").getD "")),
      ("title", .ofText? (p.getText? "title"))]

/-- How a node of another kind is written. Frontmatter and definitions are left out. A kind without an
element is written as its literal text or, without one, as its content. -/
def shape (style : RenderStyle) (info : Generic) : Shape :=
  let value := info.value.getD ""
  if info.kind = "html" ∧ style.rawHtml = true then .verbatim value
  else
    match info.kind with
    | "yaml" => .nothing
    | "toml" => .nothing
    | "definition" => .nothing
    | "footnoteDefinition" => .nothing
    | "inlineCode" => .literal [("code", .empty)] value
    | "code" =>
      .literal [("pre", .empty), ("code", .ofList [("class", languageClass info.properties)])] value
    | "break" => .void "br" .empty
    | "thematicBreak" => .void "hr" .empty
    | "image" => .void "img" (imageAttributes info.properties)
    | _ =>
      match container? info with
      | some (tag, attributes) => .container tag attributes
      | none =>
        match info.value with
        -- A kind that has no element is its text, or else its content.
        | some value => .escaped value
        | none => .content

/-- A node of another kind around its written content. -/
def Shape.wrap (style : RenderStyle) (inner : List Char) : Shape → List Char
  | .nothing => []
  | .verbatim value => value.toList
  | .escaped value => escapeText value
  | .void tag p => openTag tag p ++ closeVoid style
  | .literal tags value =>
    tags.flatMap (fun t => openTag t.1 t.2 ++ ['>']) ++ escapeText value ++
      tags.reverse.flatMap fun t => closeTag t.1
  | .container tag p => openTag tag p ++ '>' :: inner ++ closeTag tag
  | .content => inner

/-- The attributes every link has: its destination and its title. -/
def linkAttributes (a : Anchor) : Properties :=
  .ofList [("href", .text a.url), ("title", .ofText? a.title)]

/-- A link around its written content: the embed with the embed's own content, or an anchor. -/
def wrapLink (style : RenderStyle) (a : Anchor) (inner : List Char) : List Char :=
  match a.embed with
  | some e =>
    let start := openTag e.tag ((linkAttributes a).merge e.properties)
    if isVoidTag e.tag then start ++ closeVoid style
    else start ++ '>' :: markupAll style e.children ++ closeTag e.tag
  | none => openTag "a" ((linkAttributes a).merge a.properties) ++ '>' :: inner ++ closeTag "a"

mutual

/-- A node of a document. -/
def node (style : RenderStyle) : Node → List Char
  | .paragraph _ c => openTag "p" .empty ++ '>' :: nodes style c ++ closeTag "p"
  | .link a c => wrapLink style a (nodes style c)
  | .text _ value => escapeText value
  | .generic info c => (shape style info).wrap style (nodes style c)

/-- A list of nodes of a document, one after the other. -/
def nodes (style : RenderStyle) : List Node → List Char
  | [] => []
  | n :: r => node style n ++ nodes style r

end

end LinkEmbed.Render

namespace LinkEmbed

/-- A document as HTML text. -/
def Document.render (d : Document) (style : RenderStyle) : String :=
  String.ofList (Render.nodes style d.nodes)

end LinkEmbed
