import LinkEmbed.Markup.Render

/-!
# Reading markup

A reader for the markup that is written: tags with attributes, comments, and characters with references. A text
is cut into tokens from its front, and the nodes are put together from its end, so that at a start tag the
content of the element and what stands behind it are known.

* `Reader.read` — a text as nodes, refused when a tag is cut off or its partner is missing.
* `Reader.length_readChar`, `Reader.length_readTag` and the others of this kind — nothing is read that is not there,
  so cutting a text into tokens ends.
* `Reader.ending_tag`, `Reader.ending_char` — what is known of a text from its first token and the rest.
-/

namespace LinkEmbed

/-- Markup as a reader gets it from a text: an attribute is a name with a text. -/
inductive PlainMarkup where
  | element (tag : String) (attributes : List (String × String)) (children : List PlainMarkup)
  | text (value : String)
  | comment (value : String)

namespace PlainMarkup

/-- Put text in front of nodes. It becomes one with the text that stands there, and without characters it is
no node. -/
def addText (s : String) (ms : List PlainMarkup) : List PlainMarkup :=
  if s = "" then ms
  else
    match ms with
    | .text t :: r => .text (s ++ t) :: r
    | ms => .text s :: ms

end PlainMarkup

namespace Reader

/-! ## Characters and names -/

/-- The character at the front of character data, which may be written as a reference, and what is left. -/
def readChar : Char → List Char → Char × List Char
  | '&', 'a' :: 'm' :: 'p' :: ';' :: r => ('&', r)
  | '&', 'l' :: 't' :: ';' :: r => ('<', r)
  | '&', 'g' :: 't' :: ';' :: r => ('>', r)
  | '&', 'q' :: 'u' :: 'o' :: 't' :: ';' :: r => ('"', r)
  | c, r => (c, r)

/-- A reference takes characters away, and none comes back. -/
theorem length_readChar (c : Char) (r : List Char) : (readChar c r).2.length ≤ r.length := by
  unfold readChar
  split <;> simp only [List.length_cons] <;> omega

/-- Character data with its references decoded. -/
def decode : List Char → List Char
  | [] => []
  | c :: r => (readChar c r).1 :: decode (readChar c r).2
termination_by cs => cs.length
decreasing_by exact Nat.lt_succ_of_le (length_readChar c r)

/-- A character that may stand in a name. -/
def isNameChar (c : Char) : Bool :=
  !(c.isWhitespace || c == '"' || c == '\'' || c == '<' || c == '>' || c == '=' || c == '/')

/-- A name, up to the first character that may not stand in one, and what is left. -/
def readName (cs : List Char) : Option (String × List Char) :=
  match cs.takeWhile isNameChar with
  | [] => none
  | '!' :: _ => none
  | name => some (String.ofList name, cs.dropWhile isNameChar)

/-- A value, up to the quotation mark that ends it, and what is left. -/
def readValue (cs : List Char) : Option (String × List Char) :=
  match cs.dropWhile (· != '"') with
  | [] => none
  | _ :: r => some (String.ofList (decode (cs.takeWhile (· != '"'))), r)

/-- What is left of a text behind a name. -/
theorem length_readName {cs r : List Char} {name : String} (h : readName cs = some (name, r)) :
    r.length ≤ cs.length := by
  unfold readName at h
  split at h
  · cases h
  · cases h
  · obtain ⟨-, rfl⟩ := Prod.mk.inj (Option.some.inj h)
    exact (List.dropWhile_suffix _).length_le

theorem length_readValue {cs r : List Char} {value : String} (h : readValue cs = some (value, r)) :
    r.length ≤ cs.length := by
  unfold readValue at h
  split at h
  · cases h
  next hrest =>
    obtain ⟨-, rfl⟩ := Prod.mk.inj (Option.some.inj h)
    have hle := (List.dropWhile_suffix (l := cs) (· != '"')).length_le
    rw [hrest, List.length_cons] at hle
    omega

/-! ## Tags and comments -/

/-- An attribute: a name, with a value or on its own. -/
def readAttribute (cs : List Char) : Option ((String × String) × List Char) :=
  match readName cs with
  | none => none
  | some (name, '=' :: '"' :: r) => (readValue r).map fun (value, r) => ((name, value), r)
  | some (name, r) => some ((name, ""), r)

theorem length_readAttribute {cs r : List Char} {a : String × String} (h : readAttribute cs = some (a, r)) :
    r.length ≤ cs.length := by
  unfold readAttribute at h
  split at h
  · cases h
  next name rest hname =>
    obtain ⟨⟨value, r'⟩, hvalue, heq⟩ := Option.map_eq_some_iff.mp h
    obtain ⟨-, rfl⟩ := Prod.mk.inj heq
    have hle := length_readName hname
    have hle' := length_readValue hvalue
    simp only [List.length_cons] at hle
    omega
  next hname =>
    obtain ⟨-, rfl⟩ := Prod.mk.inj (Option.some.inj h)
    exact length_readName hname

/-- The attributes of a tag, each with a blank before it, up to the end of the tag, and what is left. -/
def readAttributes : List Char → Option (List (String × String) × List Char)
  | '>' :: r => some ([], r)
  | ' ' :: '/' :: '>' :: r => some ([], r)
  | ' ' :: r =>
    match _h : readAttribute r with
    | none => none
    | some (a, rest) => (readAttributes rest).map fun (attributes, rest) => (a :: attributes, rest)
  | _ => none
termination_by cs => cs.length
decreasing_by exact Nat.lt_succ_of_le (length_readAttribute ‹_›)

/-- The text of a comment up to its first end, and what is left. -/
def readComment : List Char → Option (List Char × List Char)
  | '-' :: '-' :: '>' :: r => some ([], r)
  | c :: r => (readComment r).map fun (text, rest) => (c :: text, rest)
  | [] => none

/-- What a text is made of. -/
inductive Token where
  | startTag (tag : String) (attributes : List (String × String))
  | endTag (tag : String)
  | comment (value : String)
  | char (c : Char)

/-- A tag or a comment behind its opening bracket, and what is left. -/
def readTag : List Char → Option (Token × List Char)
  | '!' :: '-' :: '-' :: r => (readComment r).map fun (value, r) => (.comment (String.ofList value), r)
  | '/' :: r =>
    match readName r with
    | some (tag, '>' :: r) => some (.endTag tag, r)
    | _ => none
  | r =>
    match readName r with
    | none => none
    | some (tag, r) => (readAttributes r).map fun (attributes, r) => (.startTag tag attributes, r)

theorem readAttributes_close (r : List Char) : readAttributes ('>' :: r) = some ([], r) := by
  rw [readAttributes]

theorem readAttributes_selfClose (r : List Char) : readAttributes (' ' :: '/' :: '>' :: r) = some ([], r) := by
  rw [readAttributes]

/-- Behind any other blank there is an attribute. -/
theorem readAttributes_blank {r : List Char} (h : ∀ r', r ≠ '/' :: '>' :: r') :
    readAttributes (' ' :: r) =
      (readAttribute r).bind fun x => (readAttributes x.2).map fun y => (x.1 :: y.1, y.2) := by
  rw [readAttributes]
  · split <;> simp [*]
  · exact h

/-- Each attribute leaves less than there was. -/
theorem length_readAttributes {cs r : List Char} {attributes : List (String × String)}
    (h : readAttributes cs = some (attributes, r)) : r.length ≤ cs.length := by
  -- The end of the tag in two spellings, an attribute that cannot be read, one that can, and anything else.
  induction cs using readAttributes.induct generalizing attributes with
  | case1 rest =>
    rw [readAttributes_close] at h
    obtain ⟨-, rfl⟩ := Prod.mk.inj (Option.some.inj h)
    exact Nat.le_succ _
  | case2 rest =>
    rw [readAttributes_selfClose] at h
    obtain ⟨-, rfl⟩ := Prod.mk.inj (Option.some.inj h)
    simp only [List.length_cons]
    omega
  | case3 rest hrest hread =>
    rw [readAttributes_blank hrest, hread] at h
    cases h
  | case4 rest hrest a rest' hread ih =>
    rw [readAttributes_blank hrest, hread] at h
    obtain ⟨y, hmore, heq⟩ := Option.map_eq_some_iff.mp h
    obtain ⟨-, rfl⟩ := Prod.mk.inj heq
    have hle := Nat.le_trans (ih hmore) (length_readAttribute hread)
    simp only [List.length_cons]
    omega
  | case5 cs h₁ h₂ h₃ =>
    rw [readAttributes] at h
    · cases h
    all_goals assumption

theorem length_readComment {cs text r : List Char} (h : readComment cs = some (text, r)) :
    r.length ≤ cs.length := by
  induction cs using readComment.induct generalizing text with
  | case1 rest =>
    rw [readComment] at h
    obtain ⟨-, rfl⟩ := Prod.mk.inj (Option.some.inj h)
    simp only [List.length_cons]
    omega
  | case2 c rest hrest ih =>
    rw [readComment] at h
    · obtain ⟨⟨text', r'⟩, hmore, heq⟩ := Option.map_eq_some_iff.mp h
      obtain ⟨-, rfl⟩ := Prod.mk.inj heq
      exact Nat.le_succ_of_le (ih hmore)
    · exact hrest
  | case3 => cases h

/-- A tag or comment leaves less than there was. -/
theorem length_readTag {cs r : List Char} {t : Token} (h : readTag cs = some (t, r)) :
    r.length ≤ cs.length := by
  unfold readTag at h
  -- A comment, an end tag, or a start tag with attributes.
  split at h
  · obtain ⟨⟨value, r'⟩, hcomment, heq⟩ := Option.map_eq_some_iff.mp h
    obtain ⟨-, rfl⟩ := Prod.mk.inj heq
    have hle := length_readComment hcomment
    simp only [List.length_cons]
    omega
  · split at h
    next hname =>
      obtain ⟨-, rfl⟩ := Prod.mk.inj (Option.some.inj h)
      have hle := length_readName hname
      simp only [List.length_cons] at hle ⊢
      omega
    · cases h
  · split at h
    · cases h
    next hname =>
      obtain ⟨⟨attributes, r'⟩, hattributes, heq⟩ := Option.map_eq_some_iff.mp h
      obtain ⟨-, rfl⟩ := Prod.mk.inj heq
      exact Nat.le_trans (length_readAttributes hattributes) (length_readName hname)

/-! ## Texts -/

/-- What is known of a text read from its end: the nodes so far, and the end tags whose start tag has not come
yet, each with the nodes behind it. -/
structure Ending where
  nodes : List PlainMarkup := []
  awaited : List (String × List PlainMarkup) := []

namespace Ending

/-- Put a token in front of what is known. -/
def put : Token → Ending → Option Ending
  | .char c, e => some { e with nodes := PlainMarkup.addText (String.singleton c) e.nodes }
  | .comment value, e => some { e with nodes := .comment value :: e.nodes }
  | .endTag tag, e => some ⟨[], (tag, e.nodes) :: e.awaited⟩
  | .startTag tag attributes, e =>
    -- A void element has no end tag to wait for.
    if Render.isVoidTag tag then some { e with nodes := .element tag attributes [] :: e.nodes }
    else
      match e.awaited with
      | [] => none
      | (name, behind) :: rest =>
        if name = tag then some ⟨.element tag attributes e.nodes :: behind, rest⟩ else none

end Ending

/-- Cut a text into tokens from its front, and put them together from its end. -/
def ending : List Char → Option Ending
  | [] => some {}
  | '<' :: r =>
    match _h : readTag r with
    | none => none
    | some (t, rest) => (ending rest).bind (Ending.put t)
  | c :: r => (ending (readChar c r).2).bind (Ending.put (.char (readChar c r).1))
termination_by cs => cs.length
decreasing_by
  · exact Nat.lt_succ_of_le (length_readTag ‹_›)
  · exact Nat.lt_succ_of_le (length_readChar c r)

/-- A bracket opens a tag or a comment. -/
theorem ending_tag (r : List Char) :
    ending ('<' :: r) = (readTag r).bind fun x => (ending x.2).bind (Ending.put x.1) := by
  rw [ending]
  split <;> simp [*]

/-- Anything else is a character, or a reference to one. -/
theorem ending_char {c : Char} (h : c ≠ '<') (r : List Char) :
    ending (c :: r) = (ending (readChar c r).2).bind (Ending.put (.char (readChar c r).1)) := by
  rw [ending]
  exact fun heq => absurd heq h

/-- Read a text as nodes. It is refused when a tag is cut off or its partner is missing. -/
def read (s : String) : Option (List PlainMarkup) :=
  (ending s.toList).bind fun e =>
    match e.awaited with
    | [] => some e.nodes
    | _ :: _ => none

end Reader

end LinkEmbed
