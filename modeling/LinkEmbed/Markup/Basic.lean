import LinkEmbed.Properties

/-!
# Markup

What an embed is made of: elements, text and comments. It is the output side; the documents that links
stand in are a type of their own.
-/

namespace LinkEmbed

/-- A node of markup. -/
inductive Markup where
  | element (tag : String) (properties : Properties) (children : List Markup)
  | text (value : String)
  | comment (value : String)

instance : Inhabited Markup := ⟨.text ""⟩

/-- An element: markup whose outermost node has a tag. -/
structure Element where
  tag : String
  properties : Properties := .empty
  children : List Markup := []

instance : Inhabited Element := ⟨⟨"", .empty, []⟩⟩

namespace Markup

/-- The element a node is. -/
def element? : Markup → Option Element
  | .element tag properties children => some ⟨tag, properties, children⟩
  | _ => none

/-- The text a node is; the text inside an element does not count. -/
def text? : Markup → Option String
  | .text s => some s
  | _ => none

mutual

/-- All text in a node, in order; comments have none. -/
def textContent : Markup → String
  | .element _ _ children => textContentAll children
  | .text s => s
  | .comment _ => ""

/-- All text in a list of nodes, in order. -/
def textContentAll : List Markup → String
  | [] => ""
  | m :: r => textContent m ++ textContentAll r

end

mutual

/-- The first element at or below a node that satisfies `p`, a parent before its children. -/
def find? (p : Element → Bool) : Markup → Option Element
  | .element tag properties children =>
    if p ⟨tag, properties, children⟩ then some ⟨tag, properties, children⟩ else findIn? p children
  | .text _ => none
  | .comment _ => none

/-- The first element in a list of nodes that satisfies `p`. -/
def findIn? (p : Element → Bool) : List Markup → Option Element
  | [] => none
  | m :: r => (find? p m).or (findIn? p r)

end

mutual

/-- Decide whether two nodes are the same. -/
def decEq : (a b : Markup) → Decidable (a = b)
  | .element t p c, .element u q d =>
    if ht : t = u then
      if hp : p = q then
        match decEqAll c d with
        | isTrue hc => isTrue (by rw [ht, hp, hc])
        | isFalse hc => isFalse fun h => hc (Markup.element.inj h).2.2
      else isFalse fun h => hp (Markup.element.inj h).2.1
    else isFalse fun h => ht (Markup.element.inj h).1
  | .text s, .text t =>
    if h : s = t then isTrue (by rw [h]) else isFalse fun e => h (Markup.text.inj e)
  | .comment s, .comment t =>
    if h : s = t then isTrue (by rw [h]) else isFalse fun e => h (Markup.comment.inj e)
  | .element .., .text _ => isFalse nofun
  | .element .., .comment _ => isFalse nofun
  | .text _, .element .. => isFalse nofun
  | .text _, .comment _ => isFalse nofun
  | .comment _, .element .. => isFalse nofun
  | .comment _, .text _ => isFalse nofun

/-- Decide whether two lists of nodes are the same. -/
def decEqAll : (a b : List Markup) → Decidable (a = b)
  | [], [] => isTrue rfl
  | [], _ :: _ => isFalse nofun
  | _ :: _, [] => isFalse nofun
  | a :: r, b :: s =>
    match decEq a b with
    | isTrue h =>
      match decEqAll r s with
      | isTrue k => isTrue (by rw [h, k])
      | isFalse k => isFalse fun e => k (List.cons.inj e).2
    | isFalse h => isFalse fun e => h (List.cons.inj e).1

end

instance : DecidableEq Markup := decEq

end Markup

namespace Element

/-- The element as a node. -/
def toMarkup (e : Element) : Markup := .element e.tag e.properties e.children

/-- An element from children of which some may be absent. -/
def ofChildren (tag : String) (properties : Properties) (children : List (Option Markup)) : Element :=
  ⟨tag, properties, children.filterMap id⟩

/-- The `class` property, if it is a text. -/
def class? (e : Element) : Option String := e.properties.getText? "class"

/-- The children that are elements. -/
def childElements (e : Element) : List Element := e.children.filterMap Markup.element?

/-- All text in the element. -/
def textContent (e : Element) : String := Markup.textContentAll e.children

/-- The first element that satisfies `p`, the element itself first and then its descendants in order. -/
def find? (e : Element) (p : Element → Bool) : Option Element := Markup.find? p e.toMarkup

/-- The first element whose `class` is exactly the text given. -/
def findByClass? (e : Element) (name : String) : Option Element :=
  e.find? fun d => d.class? == some name

/-- The first element with the tag given. -/
def findByTag? (e : Element) (tag : String) : Option Element := e.find? fun d => d.tag == tag

end Element

end LinkEmbed
