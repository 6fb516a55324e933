import LinkEmbed.Markdown.Html
import LinkEmbed.Text.Blank
import LinkEmbed.Unicode.Punctuation

/-!
# Components and expressions

With components turned on, tags in a text are tags of components, and what stands in braces is an expression.
A tag or an expression that does not end is a fault of the whole text, and so is an opening tag without its
closing one.
-/

namespace LinkEmbed.Markdown

/-- A cause for which a text with components cannot be read. -/
inductive Fault where
  | unclosedExpression
  | malformedTag
  | unopenedTag (name : String)
  | unclosedTag (name : String)
  | outsideContainer
deriving DecidableEq, Repr

/-- The wording of a fault. -/
def Fault.message : Fault → String
  | .unclosedExpression => "unexpected end in expression, expected a closing brace"
  | .malformedTag => "unexpected character in tag"
  | .unopenedTag name => "unexpected closing tag </" ++ name ++ ">, expected an opening tag first"
  | .unclosedTag name => "expected a closing tag for <" ++ name ++ ">"
  | .outsideContainer => "unexpected line outside of its container"

/-- A tag of a component. -/
structure Tag where
  name : String
  closing : Bool
  selfClosing : Bool
deriving DecidableEq, Inhabited

/-- The length of an expression behind its opening brace, with the closing one; `depth` more braces are
open. -/
def expressionSize? (depth : Nat) : List Char → Option Nat
  | [] => none
  | c :: r =>
    if c = '\x7b' then (expressionSize? (depth + 1) r).map (· + 1)
    else if c = '\x7d' then
      match depth with
      | 0 => some 1
      | d + 1 => (expressionSize? d r).map (· + 1)
    else (expressionSize? depth r).map (· + 1)

/-- Where one is in the tag of a component. -/
inductive ComponentState where
  | start
  | beforeClosingName
  | name
  | afterName
  | beforeMember
  | member
  | afterMember
  | beforeLocal
  | localName
  | beforeAttribute
  | attributeName
  | afterAttribute
  | beforeAttributeLocal
  | attributeLocal
  | afterAttributeLocal
  | beforeValue
  | quoted (mark : Char)
  | expression (depth : Nat)
  | selfClosing
  | closed
deriving DecidableEq

namespace ComponentState

/-- A character that a name begins with. -/
def isNameStart (c : Char) : Bool :=
  c.isAlpha || c == '_' || c == '$' ||
    (0x80 ≤ c.toNat && !Text.isSpace c && !Unicode.isPunctuation c)

/-- A character that a name goes on with. -/
def isNameChar (c : Char) : Bool := isNameStart c || c.isDigit || c == '-'

/-- Before an attribute or the end of the tag. -/
def stepAttribute (c : Char) : Option ComponentState :=
  if Text.isSpace c then some .beforeAttribute
  else if c = '/' then some .selfClosing
  else if c = '>' then some .closed
  else if c = '\x7b' then some (.expression 0)
  else if isNameStart c then some .attributeName
  else none

/-- Before a name that must come. -/
def stepBefore (here there : ComponentState) (c : Char) : Option ComponentState :=
  if Text.isSpace c then some here else if isNameStart c then some there else none

/-- Behind the first part of the tag's name. -/
def stepAfterName (c : Char) : Option ComponentState :=
  if Text.isSpace c then some .afterName
  else if c = '.' then some .beforeMember
  else if c = ':' then some .beforeLocal
  else stepAttribute c

/-- Behind a member of the tag's name. -/
def stepAfterMember (c : Char) : Option ComponentState :=
  if Text.isSpace c then some .afterMember
  else if c = '.' then some .beforeMember
  else stepAttribute c

/-- Behind an attribute's name that may still get a value. -/
def stepAfterAttributeLocal (c : Char) : Option ComponentState :=
  if Text.isSpace c then some .afterAttributeLocal
  else if c = '=' then some .beforeValue
  else stepAttribute c

/-- Behind the first part of an attribute's name. -/
def stepAfterAttribute (c : Char) : Option ComponentState :=
  if Text.isSpace c then some .afterAttribute
  else if c = ':' then some .beforeAttributeLocal
  else if c = '=' then some .beforeValue
  else stepAttribute c

/-- Take the next character of a tag. -/
def step (s : ComponentState) (c : Char) : Option ComponentState :=
  match s with
  | .start =>
    if c = '/' then some .beforeClosingName
    else if c = '>' then some .closed
    else if isNameStart c then some .name
    else none
  | .beforeClosingName => if c = '>' then some .closed else stepBefore .beforeClosingName .name c
  -- A name may be one of a member or have a prefix.
  | .name => if isNameChar c then some .name else stepAfterName c
  | .afterName => stepAfterName c
  | .beforeMember => stepBefore .beforeMember .member c
  | .member => if isNameChar c then some .member else stepAfterMember c
  | .afterMember => stepAfterMember c
  | .beforeLocal => stepBefore .beforeLocal .localName c
  | .localName => if isNameChar c then some .localName else stepAttribute c
  | .beforeAttribute => stepAttribute c
  | .attributeName => if isNameChar c then some .attributeName else stepAfterAttribute c
  | .afterAttribute => stepAfterAttribute c
  | .beforeAttributeLocal => stepBefore .beforeAttributeLocal .attributeLocal c
  | .attributeLocal => if isNameChar c then some .attributeLocal else stepAfterAttributeLocal c
  | .afterAttributeLocal => stepAfterAttributeLocal c
  | .beforeValue =>
    if Text.isSpace c then some .beforeValue
    else if c = '"' ∨ c = '\'' then some (.quoted c)
    else if c = '\x7b' then some (.expression 0)
    else none
  | .quoted mark => some (if c = mark then .beforeAttribute else .quoted mark)
  -- Braces inside an expression have to match.
  | .expression depth =>
    if c = '\x7b' then some (.expression (depth + 1))
    else if c = '\x7d' then
      match depth with
      | 0 => some .beforeAttribute
      | d + 1 => some (.expression d)
    else some (.expression depth)
  | .selfClosing => if Text.isSpace c then some .selfClosing else if c = '>' then some .closed else none
  | .closed => none

/-- The character belongs to the name of the tag. -/
def isOfName : ComponentState → Bool
  | .name | .member | .localName | .beforeMember | .beforeLocal => true
  | _ => false

end ComponentState

/-- What is read of the tag of a component. -/
structure TagScan where
  state : ComponentState := .start
  /-- The name so far, last character first. -/
  name : List Char := []
  closing : Bool := false
  selfClosing : Bool := false
  /-- There is an attribute. -/
  attributes : Bool := false

/-- Note a step of the scan. -/
def TagScan.note (s : TagScan) (c : Char) (t : ComponentState) : TagScan :=
  { s with
    state := t
    name := if t.isOfName && !Text.isSpace c then c :: s.name else s.name
    closing := s.closing || t == .beforeClosingName
    selfClosing := s.selfClosing || t == .selfClosing
    attributes := s.attributes || t == .attributeName || t == .expression 0 }

/-- What comes of reading a construct that spans lines. -/
inductive Reading (α : Type) where
  /-- It is no such construct. -/
  | none
  | fault (f : Fault)
  /-- The text ends too early. -/
  | incomplete
  | found (value : α) (size : Nat)

/-- Read the rest of a tag. A closing tag has neither attributes nor an end of its own. -/
def TagScan.read (s : TagScan) (n : Nat) : List Char → Reading Tag
  | [] => .incomplete
  | c :: r =>
    match s.state.step c with
    | none => .fault .malformedTag
    | some .closed =>
      if s.closing && (s.selfClosing || s.attributes) then .fault .malformedTag
      else .found ⟨String.ofList s.name.reverse, s.closing, s.selfClosing⟩ (n + 1)
    | some t => (s.note c t).read (n + 1) r

/-- Read a tag behind its opening bracket. A bracket before white space is no tag. -/
def readTag (cs : List Char) : Reading Tag :=
  match cs with
  | [] => .incomplete
  | c :: _ => if Text.isSpace c then .none else ({} : TagScan).read 0 cs

/-- A part of a block of components. -/
inductive ComponentPart where
  | tag (tag : Tag)
  | expression
deriving DecidableEq, Inhabited

/-- Read a block of components and expressions: nothing but those, up to the end of a line. Parts come with
where they begin and how long they are. -/
def readComponents (fuel n : Nat) (cs : List Char) : Reading (List (ComponentPart × Extent)) :=
  match fuel with
  | 0 => .none
  | fuel + 1 =>
    let continueAt (part : ComponentPart) (start size : Nat) (r : List Char) :=
      let b := blanks r
      -- Components fill a line, or the line is a paragraph.
      if atLineEnd (r.drop b) then .found [(part, ⟨start, size⟩)] (start + size + b)
      else
        match readComponents fuel (start + size + b) (r.drop b) with
        | .found ps m => .found ((part, ⟨start, size⟩) :: ps) m
        | other => other
    match cs with
    | '<' :: r =>
      match readTag r with
      | .none => .none
      | .fault f => .fault f
      | .incomplete => .incomplete
      | .found t m => continueAt (.tag t) n (m + 1) (r.drop m)
    | '\x7b' :: r =>
      match expressionSize? 0 r with
      | none => .incomplete
      | some m => continueAt .expression n (m + 1) (r.drop m)
    | _ => .none

end LinkEmbed.Markdown
