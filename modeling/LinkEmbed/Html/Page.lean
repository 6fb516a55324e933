import LinkEmbed.Html.Frames
import LinkEmbed.Markup.Basic

/-!
# Pages and fragments

Reading a text as a whole page, whose elements can be looked through, or as a fragment that stands in the
body of a page, which becomes markup.
-/

namespace LinkEmbed.Html

/-- Read tokens until the text ends. Every token takes at least one character, so the first argument, which
bounds their number, may be the length of the text. -/
def Builder.readAll : Nat → Builder → List Char → Builder
  | 0, b, _ => b.feed .endOfText
  | _ + 1, b, [] => b.feed .endOfText
  | more + 1, b, cs =>
    let sections := !b.opened.isEmpty && b.adjustedName.vocabulary != .html
    let (tokens, rest) := Lexer.next b.model sections cs
    readAll more (tokens.foldl feed b) rest

/-- The characters of a text as they are read. -/
def inputOf (text : String) : List Char :=
  match text.toList with
  | '\uFEFF' :: cs => Lexer.normalizeLines cs
  | cs => Lexer.normalizeLines cs

/-- A state in which nothing but the document is there. -/
def Builder.empty : Builder := { tree := Tree.add {} .document, mode := .initial }

/-- Read a text as a page. -/
def readPage (text : String) : Tree :=
  let cs := inputOf text
  (Builder.empty.readAll cs.length cs).tree

/-- Read a text as what stands in the body of a page. -/
def readInBody (text : String) : Tree :=
  let cs := inputOf text
  let b := Builder.empty.createRoot []
  ({ b with mode := .inBody, context := some (.html "body") }.readAll cs.length cs).tree

/-! ## Attributes in order -/

/-- What attributes are ordered by: their label, then whether they declare a vocabulary, then their name. -/
def Attribute.key (v : Vocabulary) (a : Attribute) : String × Bool × String :=
  (a.label.getD "", v != .html && a.label.isNone && a.name == "xmlns", a.name)

/-- The order of attributes. -/
def keyBefore (x y : String × Bool × String) : Bool :=
  if x.1 = y.1 then if x.2.1 = y.2.1 then decide (x.2.2 < y.2.2) else !x.2.1 else decide (x.1 < y.1)

/-- Put an attribute among attributes that are in order. -/
def insertAttribute (v : Vocabulary) (a : Attribute) : List Attribute → List Attribute
  | [] => [a]
  | b :: r => if keyBefore (a.key v) (b.key v) then a :: b :: r else b :: insertAttribute v a r

/-- The attributes of an element in order. -/
def sortAttributes (v : Vocabulary) (attributes : List Attribute) : List Attribute :=
  attributes.foldr (insertAttribute v) []

/-! ## Markup -/

/-- A node as markup. The content of a template is no part of it. The second argument bounds the depth. -/
def Tree.markup? (t : Tree) : Nat → Nat → Option Markup
  | 0, _ => none
  | depth + 1, i =>
    let n := t.node i
    match n.kind with
    | .element name attributes =>
      let properties := (sortAttributes name.vocabulary attributes).map fun a => (a.name, Scalar.text a.value)
      some (.element name.name (.ofList properties) (n.children.toList.filterMap (markup? t depth)))
    | .text s => some (.text s)
    | .comment s => some (.comment s)
    | _ => none

/-- Read a text as markup that stands in the body of a page. -/
def readFragment (text : String) : List Markup :=
  let t := readInBody text
  (t.node 1).children.toList.filterMap (t.markup? t.size)

/-! ## Looking through a page -/

/-- An element that is found in a page: its number, name and attributes. -/
structure Found where
  node : Nat
  name : TagName
  attributes : List Attribute

/-- The elements of a page that have a place, in the order in which they came to be. -/
def Tree.elements (t : Tree) : List Found :=
  (t.nodes.toList.zipIdx).filterMap fun (n, i) =>
    match n.kind with
    | .element name attributes => if n.parent.isSome then some ⟨i, name, attributes⟩ else none
    | _ => none

/-- The text inside a node. The second argument bounds the depth. -/
def Tree.textOf (t : Tree) : Nat → Nat → String
  | 0, _ => ""
  | depth + 1, i =>
    let n := t.node i
    match n.kind with
    | .text s => s
    | _ => String.join (n.children.toList.map (textOf t depth))

/-- The value of an attribute that has no label. -/
def Found.value? (e : Found) (name : String) : Option String :=
  (e.attributes.find? fun a => a.label.isNone && a.name == name).map (·.value)

end LinkEmbed.Html
