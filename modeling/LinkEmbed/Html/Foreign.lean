import LinkEmbed.Html.Head

/-!
# Drawings and formulas

Elements of the two other vocabularies. Their names and attributes are written in the case those
vocabularies want, and an element of HTML inside them usually ends them.
-/

namespace LinkEmbed.Html

/-- Names of SVG attributes that are not in lower case. -/
def svgAttributeNames : List String :=
  ["attributeName", "attributeType", "baseFrequency", "baseProfile", "calcMode", "clipPathUnits",
    "diffuseConstant", "edgeMode", "filterUnits", "glyphRef", "gradientTransform", "gradientUnits",
    "kernelMatrix", "kernelUnitLength", "keyPoints", "keySplines", "keyTimes", "lengthAdjust",
    "limitingConeAngle", "markerHeight", "markerUnits", "markerWidth", "maskContentUnits", "maskUnits",
    "numOctaves", "pathLength", "patternContentUnits", "patternTransform", "patternUnits", "pointsAtX",
    "pointsAtY", "pointsAtZ", "preserveAlpha", "preserveAspectRatio", "primitiveUnits", "refX", "refY",
    "repeatCount", "repeatDur", "requiredExtensions", "requiredFeatures", "specularConstant",
    "specularExponent", "spreadMethod", "startOffset", "stdDeviation", "stitchTiles", "surfaceScale",
    "systemLanguage", "tableValues", "targetX", "targetY", "textLength", "viewBox", "viewTarget",
    "xChannelSelector", "yChannelSelector", "zoomAndPan"]

/-- Names of SVG elements that are not in lower case. -/
def svgElementNames : List String :=
  ["altGlyph", "altGlyphDef", "altGlyphItem", "animateColor", "animateMotion", "animateTransform",
    "clipPath", "feBlend", "feColorMatrix", "feComponentTransfer", "feComposite", "feConvolveMatrix",
    "feDiffuseLighting", "feDisplacementMap", "feDistantLight", "feDropShadow", "feFlood", "feFuncA",
    "feFuncB", "feFuncG", "feFuncR", "feGaussianBlur", "feImage", "feMerge", "feMergeNode", "feMorphology",
    "feOffset", "fePointLight", "feSpecularLighting", "feSpotLight", "feTile", "feTurbulence",
    "foreignObject", "glyphRef", "linearGradient", "radialGradient", "textPath"]

/-- Names of MathML attributes that are not in lower case. -/
def mathAttributeNames : List String := ["definitionURL"]

/-- A name as a list of names spells it. -/
def spellAs (names : List String) (name : String) : String :=
  (names.find? fun n => n.map Char.toLower == name).getD name

/-- Attributes that have a label before their name. -/
def labelledNames : List (String × String × String) :=
  [("xlink:actuate", "xlink", "actuate"), ("xlink:arcrole", "xlink", "arcrole"),
    ("xlink:href", "xlink", "href"), ("xlink:role", "xlink", "role"), ("xlink:show", "xlink", "show"),
    ("xlink:title", "xlink", "title"), ("xlink:type", "xlink", "type"), ("xml:lang", "xml", "lang"),
    ("xml:space", "xml", "space"), ("xmlns:xlink", "xmlns", "xlink")]

/-- The attributes of an element of a vocabulary. -/
def foreignAttributes (v : Vocabulary) (attributes : List (String × String)) : List Attribute :=
  attributes.map fun (name, value) =>
    let name := match v with
      | .svg => spellAs svgAttributeNames name
      | .math => spellAs mathAttributeNames name
      | .html => name
    match labelledNames.find? (·.1 == name) with
    | some (_, label, name) => ⟨some label, name, value⟩
    | none => ⟨none, name, value⟩

/-- Elements of HTML that end a drawing or a formula. -/
def endsForeign (name : String) (attributes : List (String × String)) : Bool :=
  ["b", "big", "blockquote", "body", "br", "center", "code", "dd", "div", "dl", "dt", "em", "embed", "h1",
    "h2", "h3", "h4", "h5", "h6", "head", "hr", "i", "img", "li", "listing", "menu", "meta", "nobr", "ol",
    "p", "pre", "ruby", "s", "small", "span", "strong", "strike", "sub", "sup", "table", "tt", "u", "ul",
    "var"].contains name ||
  (name == "font" && attributes.any fun a => ["color", "face", "size"].contains a.1)

namespace Builder

/-- Open an element of another vocabulary, or put it if its tag closes itself. -/
def insertForeign (b : Builder) (v : Vocabulary) (name : String) (attributes : List (String × String))
    (selfClosing : Bool) : Builder :=
  let b := b.insert ⟨v, name⟩ (foreignAttributes v attributes)
  if selfClosing then b.pop else b

/-- Whether a token falls under the rules of the other vocabularies. -/
def isForeign (b : Builder) (t : Token) : Bool :=
  let n := b.adjustedName
  let isFormulaText := n.vocabulary == .math && integrationPoints.contains n
  let isDrawingText := n.vocabulary == .svg && integrationPoints.contains n
  !b.opened.isEmpty && n.vocabulary != .html &&
    match t with
    | .endOfText => false
    | .char _ => !(isFormulaText || isDrawingText)
    | .startTag name _ _ =>
      !(isDrawingText || (isFormulaText && name != "mglyph" && name != "malignmark") ||
        (n == ⟨.math, "annotation-xml"⟩ && name == "svg"))
    | _ => true

/-- Close drawings and formulas up to where HTML may go on. -/
def leaveForeign (b : Builder) : Builder :=
  b.popTo fun n => n.vocabulary == .html || integrationPoints.contains n

/-- The element of another vocabulary that an end tag closes: the latest one of the name in any case. If
one of HTML stands before it, the rules of HTML hold, and the outermost element is never closed. -/
inductive ForeignEnd where
  | closes (rest : List Nat)
  | nothing
  | asHtml

/-- Find what an end tag closes among the open elements. -/
def foreignEnd (b : Builder) (name : String) (first : Bool) : List Nat → ForeignEnd
  | [] => .nothing
  | [_] => .nothing
  | i :: r =>
    let n := b.nameOf i
    if !first && n.vocabulary == .html then .asHtml
    else if n.name.map Char.toLower = name then .closes r
    else foreignEnd b name false r

/-- In a drawing or a formula. The flag tells that the rules of HTML decide about the token. -/
def inForeign (b : Builder) (t : Token) : Builder × Bool :=
  match t with
  | .char c =>
    if c = '\x00' then (b.insertChar '\uFFFD', false)
    else
      let b := if isFiller c then b else { b with framesetAllowed := false }
      (b.insertChar c, false)
  | .comment text => (b.insertComment text, false)
  | .startTag name attributes selfClosing =>
    -- Some names of HTML end what is foreign; the token is then read once more.
    if endsForeign name attributes then (b.leaveForeign, true)
    else
      let v := b.adjustedName.vocabulary
      -- The lexer has put all names in lower case, and SVG has some that are not.
      let name := if v = .svg then spellAs svgElementNames name else name
      (b.insertForeign v name attributes selfClosing, false)
  | .endTag name =>
    if name = "br" ∨ name = "p" then (b.leaveForeign, true)
    else
      match b.foreignEnd name true b.opened with
      | .closes rest => ({ b with opened := rest }, false)
      | .nothing => (b, false)
      | .asHtml => (b, true)
  | _ => (b, false)

end Builder

end LinkEmbed.Html
