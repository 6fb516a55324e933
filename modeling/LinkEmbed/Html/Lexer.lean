import LinkEmbed.Html.Entity

/-!
# Tokens of HTML

Tags, comments and characters as they are cut from a text. What counts as a tag depends on the element that
is open: inside some elements everything up to their end tag is text.
-/

namespace LinkEmbed.Html

/-- A token. A name or value is in its final form: names in lower case, references replaced. -/
inductive Token where
  | doctype
  | startTag (name : String) (attributes : List (String × String)) (selfClosing : Bool)
  | endTag (name : String)
  | comment (text : String)
  | char (c : Char)
  | endOfText
deriving DecidableEq, Repr, Inhabited

/-- How the text inside the open element is cut. -/
inductive TextModel where
  /-- Tags, comments and references. -/
  | markup
  /-- Text with references, up to the end tag of the name given. -/
  | escapable (name : String)
  /-- Text without references, up to the end tag of the name given. -/
  | raw (name : String)
  /-- A script, whose end tags do not count inside some comments. -/
  | script
  /-- Text to the very end. -/
  | plain
deriving DecidableEq, Repr

namespace Lexer

/-- The white space of HTML. -/
def isBlank (c : Char) : Bool := c == ' ' || c == '\t' || c == '\n' || c == '\x0c'

/-- A character that ends the name of a tag. -/
def endsName (c : Char) : Bool := isBlank c || c == '/' || c == '>'

/-- A character as it stands in names, values and comments. -/
def visible (c : Char) : Char := if c = '\x00' then '\uFFFD' else c

/-- A character of a name. -/
def lower (c : Char) : Char := visible c.toLower

/-- Line ends are line feeds; a mark of byte order at the front does not count. -/
def normalizeLines : List Char → List Char
  | [] => []
  | '\r' :: '\n' :: r => '\n' :: normalizeLines r
  | '\r' :: r => '\n' :: normalizeLines r
  | c :: r => c :: normalizeLines r

/-! ## Tags -/

/-- Replace the references in an attribute value. The first argument bounds the number of pieces. -/
def decodeValue : Nat → List Char → List Char
  | 0, _ => []
  | _, [] => []
  | more + 1, '&' :: r =>
    let (chars, rest) := reference true r
    chars ++ decodeValue more rest
  | more + 1, c :: r => visible c :: decodeValue more r

/-- An attribute value behind its equals sign, and what is left; nothing when the text ends in it. -/
def readValue (cs : List Char) : Option (String × List Char) :=
  let cs := cs.dropWhile isBlank
  let quoted (q : Char) (r : List Char) : Option (String × List Char) :=
    match r.dropWhile (· != q) with
    | [] => none
    | _ :: rest =>
      let value := r.takeWhile (· != q)
      some (String.ofList (decodeValue value.length value), rest)
  match cs with
  | [] => none
  | '"' :: r => quoted '"' r
  | '\'' :: r => quoted '\'' r
  | cs =>
    -- Without quotes a value ends at a blank or with the tag.
    let stop (c : Char) := isBlank c || c == '>'
    match cs.dropWhile fun c => !stop c with
    | [] => none
    | rest =>
      let value := cs.takeWhile fun c => !stop c
      some (String.ofList (decodeValue value.length value), rest)

/-- Keep the first of attributes of one name. -/
def addAttribute (name value : String) (attributes : List (String × String)) : List (String × String) :=
  if attributes.any fun a => a.1 == name then attributes else attributes ++ [(name, value)]

/-- The attributes of a tag up to its closing bracket, whether a slash stands before the bracket, and what
is left; nothing when the text ends in the tag. The first argument bounds the number of attributes. -/
def readAttributes : Nat → List (String × String) → List Char →
    Option (List (String × String) × Bool × List Char)
  | 0, _, _ => none
  | more + 1, attributes, cs =>
    match cs.dropWhile isBlank with
    | [] => none
    | '>' :: r => some (attributes, false, r)
    | '/' :: '>' :: r => some (attributes, true, r)
    -- A slash that does not end the tag is dropped.
    | '/' :: r => readAttributes more attributes r
    -- An equals sign at the front is part of the name.
    | c :: r =>
      let stop (c : Char) := endsName c || c == '='
      let name := String.ofList ((c :: r.takeWhile fun c => !stop c).map lower)
      match (r.dropWhile fun c => !stop c).dropWhile isBlank with
      | '=' :: rest =>
        match readValue rest with
        | none => none
        | some (value, rest) => readAttributes more (addAttribute name value attributes) rest
      | rest => readAttributes more (addAttribute name "" attributes) rest

/-- A tag behind its opening bracket and slash. -/
def readTag (cs : List Char) : Option (String × List (String × String) × Bool × List Char) :=
  let name := String.ofList ((cs.takeWhile fun c => !endsName c).map lower)
  (readAttributes (cs.length + 1) [] (cs.dropWhile fun c => !endsName c)).map fun (a, s, r) => (name, a, s, r)

/-! ## Comments -/

/-- A comment that is ended by the next bracket. -/
def bogusComment (cs : List Char) : Token × List Char :=
  (.comment (String.ofList ((cs.takeWhile (· != '>')).map visible)), (cs.dropWhile (· != '>')).drop 1)

/-- The text of a comment behind its opening, and what is left. -/
def commentText : List Char → List Char × List Char
  | [] => ([], [])
  | '-' :: '-' :: '>' :: r => ([], r)
  | '-' :: '-' :: '!' :: '>' :: r => ([], r)
  | ['-', '-', '!'] => ([], [])
  | ['-', '-'] => ([], [])
  | ['-'] => ([], [])
  | c :: r =>
    let (text, rest) := commentText r
    (visible c :: text, rest)

/-- A comment behind its opening. -/
def readComment (cs : List Char) : Token × List Char :=
  match cs with
  | '>' :: r => (.comment "", r)
  | '-' :: '>' :: r => (.comment "", r)
  | cs =>
    let (text, rest) := commentText cs
    (.comment (String.ofList text), rest)

/-! ## Text -/

/-- Whether a text begins with a name in any case and a character that ends it. -/
def startsWithName (name : List Char) (cs : List Char) : Bool :=
  (cs.take name.length).map Char.toLower == name &&
    match cs.drop name.length with
    | c :: _ => endsName c
    | [] => false

/-- Whether a text begins with the end tag of a name. -/
def startsWithEnd (name : List Char) (cs : List Char) : Bool :=
  match cs with
  | '<' :: '/' :: r => startsWithName name r
  | _ => false

/-- How far a script is inside a comment. -/
inductive ScriptState where
  | outside
  | escaped
  | doublyEscaped
deriving DecidableEq

/-- The text of a script up to its end tag. `dashes` counts the dashes just read. -/
def scriptText (state : ScriptState) (dashes : Nat) : List Char → List Char × List Char
  | [] => ([], [])
  | c :: r =>
    let name := ['s', 'c', 'r', 'i', 'p', 't']
    -- Only a script inside a comment inside the script hides the end tag.
    if state ≠ .doublyEscaped ∧ startsWithEnd name (c :: r) = true then ([], c :: r)
    else
      let next : ScriptState :=
        match state with
        | .outside => if ['<', '!', '-', '-'].isPrefixOf (c :: r) then .escaped else .outside
        | .escaped =>
          if c = '>' ∧ 2 ≤ dashes then .outside
          else if c = '<' ∧ startsWithName name r = true then .doublyEscaped
          else .escaped
        | .doublyEscaped =>
          if c = '>' ∧ 2 ≤ dashes then .outside
          else if startsWithEnd name (c :: r) then .escaped
          else .doublyEscaped
      let (text, rest) := scriptText next (if c = '-' ∧ state ≠ .outside then dashes + 1 else 0) r
      (visible c :: text, rest)

/-- The text of a section that is passed on as it is, up to two brackets and an angle. -/
def sectionText : List Char → List Char × List Char
  | [] => ([], [])
  | ']' :: ']' :: '>' :: r => ([], r)
  | c :: r =>
    let (text, rest) := sectionText r
    (c :: text, rest)

/-! ## Tokens -/

/-- An end tag, or the end of the text in it. -/
def readEndTag (cs : List Char) : List Token × List Char :=
  match readTag cs with
  | some (name, _, _, rest) => ([.endTag name], rest)
  | none => ([], [])

/-- A tag or comment behind its opening bracket, or the bracket itself. `sections` tells whether sections
of plain text may occur here. -/
def readMarkup (sections : Bool) (cs : List Char) : List Token × List Char :=
  match cs with
  | '!' :: '-' :: '-' :: r =>
    let (t, rest) := readComment r
    ([t], rest)
  -- Neither a doctype nor a section is a comment, whatever it holds.
  | '!' :: r =>
    if (r.take 7).map Char.toLower = "doctype".toList then
      ([.doctype], ((r.drop 7).dropWhile (· != '>')).drop 1)
    else if sections && r.take 7 == "[CDATA[".toList then
      let (text, rest) := sectionText (r.drop 7)
      (text.map .char, rest)
    else
      let (t, rest) := bogusComment r
      ([t], rest)
  | '/' :: [] => ([.char '<', .char '/'], [])
  -- An end tag without a name is dropped.
  | '/' :: '>' :: r => ([], r)
  | '/' :: c :: r =>
    if c.isAlpha then readEndTag (c :: r)
    else
      let (t, rest) := bogusComment (c :: r)
      ([t], rest)
  | '?' :: r =>
    let (t, rest) := bogusComment ('?' :: r)
    ([t], rest)
  | c :: r =>
    if c.isAlpha then
      match readTag (c :: r) with
      | some (name, attributes, selfClosing, rest) => ([.startTag name attributes selfClosing], rest)
      | none => ([], [])
    else ([.char '<'], c :: r)
  | [] => ([.char '<'], [])

/-- The next tokens of a text that is not empty, and what is left, which is shorter. -/
def next (model : TextModel) (sections : Bool) (cs : List Char) : List Token × List Char :=
  match cs with
  | [] => ([], [])
  | c :: r =>
    match model with
    | .markup =>
      if c = '<' then readMarkup sections r
      else if c = '&' then
        let (chars, rest) := reference false r
        (chars.map .char, rest)
      else ([.char c], r)
    | .escapable name =>
      if startsWithEnd name.toList (c :: r) then readEndTag (r.drop 1)
      else if c = '&' then
        let (chars, rest) := reference false r
        (chars.map .char, rest)
      else ([.char (visible c)], r)
    | .raw name =>
      if startsWithEnd name.toList (c :: r) then readEndTag (r.drop 1) else ([.char (visible c)], r)
    | .script =>
      if startsWithEnd "script".toList (c :: r) then readEndTag (r.drop 1)
      else
        let (text, rest) := scriptText .outside 0 (c :: r)
        (text.map .char, rest)
    | .plain => ([.char (visible c)], r)

end Lexer

end LinkEmbed.Html
