import LinkEmbed.Markdown.Glyph
import LinkEmbed.Text.Blank
import LinkEmbed.Text.Ranges
import LinkEmbed.Unicode.Punctuation

/-!
# Addresses as links

An address in pointed brackets is a link, and so is a web or mail address that just stands in the text. The
latter ends before punctuation that more likely belongs to the sentence around it (`trailEnds`).
-/

namespace LinkEmbed.Markdown

/-- The kind of an address, which decides where it leads. -/
inductive Address where
  /-- A full address, which leads where it says. -/
  | full
  /-- A web address without its scheme. -/
  | www
  /-- A mail address without its scheme. -/
  | mail
deriving DecidableEq

/-- Where an address leads. -/
def Address.destination : Address → String → String
  | .full, text => text
  | .www, text => "http://" ++ text
  | .mail, text => "mailto:" ++ text

/-! ## In brackets -/

/-- A character of a scheme after the first. -/
def isSchemeChar (c : Char) : Bool := c.isAlphanum || c == '+' || c == '-' || c == '.'

/-- A character that no address in brackets holds. -/
def endsAddress (c : Char) : Bool := c.toNat ≤ 0x20 || c.toNat == 0x7F || c == '<'

/-- The length of an address with a scheme, up to the closing bracket. -/
def fullAddress? (cs : List Char) : Option Nat :=
  let scheme := cs.takeWhile isSchemeChar
  if (cs.head?.map Char.isAlpha).getD false ∧ 2 ≤ scheme.length ∧ scheme.length ≤ 32 then
    match cs.drop scheme.length with
    | ':' :: r =>
      let rest := r.takeWhile fun c => c != '>' && !endsAddress c
      if (r.drop rest.length).head? = some '>' then some (scheme.length + 1 + rest.length) else none
    | _ => none
  else none

/-- A character of the part of a mail address before the at sign. -/
def isMailboxChar (c : Char) : Bool :=
  ('#' ≤ c && c ≤ '\'') || c == '*' || c == '+' || ('-' ≤ c && c ≤ '9') || c == '=' || c == '?' ||
    ('A' ≤ c && c ≤ 'Z') || ('^' ≤ c && c ≤ '~')

/-- A label of a host name: letters and digits, and hyphens inside. -/
def isHostLabel (cs : List Char) : Bool :=
  cs.length ≤ 63 && (cs.head?.map Char.isAlphanum).getD false && (cs.getLast?.map Char.isAlphanum).getD false

/-- The length of a mail address, up to the closing bracket. -/
def mailAddress? (cs : List Char) : Option Nat :=
  let mailbox := cs.takeWhile isMailboxChar
  match cs.drop mailbox.length with
  | '@' :: r =>
    let host := r.takeWhile fun c => c.isAlphanum || c == '-' || c == '.'
    if 0 < mailbox.length ∧ (r.drop host.length).head? = some '>' ∧
        (Text.splitWhere (· == '.') host).all isHostLabel then
      some (mailbox.length + 1 + host.length)
    else none
  | _ => none

/-- An address behind its opening bracket, up to the closing one. -/
def bracketedAddress? (cs : List Char) : Option (Address × Nat) :=
  match fullAddress? cs with
  | some n => some (.full, n)
  | none => (mailAddress? cs).map fun n => (.mail, n)

/-! ## In plain text -/

/-- Punctuation that an address does not end with. -/
def isTrailing (c : Char) : Bool :=
  c == '!' || c == '"' || c == '\'' || c == ')' || c == '*' || c == ',' || c == '.' || c == ':' ||
    c == ';' || c == '?' || c == '_' || c == '~'

/-- The length of a named reference, without its ampersand and with its semicolon; none counts as zero. -/
def namedReferenceSize (cs : List Char) : Nat :=
  let name := cs.takeWhile Char.isAlpha
  if 0 < name.length ∧ (cs.drop name.length).head? = some ';' then name.length + 1 else 0

/-- Only trailing punctuation stands before the end of an address: white space, an opening pointed bracket,
or a closing square bracket that ends the text of a link. The first `skip` characters are passed over. -/
def trailEnds (skip : Nat) : List Char → Bool
  | [] => true
  | c :: r =>
    match skip with
    | n + 1 => trailEnds n r
    | 0 =>
      if isTrailing c then trailEnds 0 r
      -- A reference to a character is trailing as a whole.
      else if c = '&' then
        match namedReferenceSize r with
        | 0 => false
        | n + 1 => trailEnds (n + 1) r
      else if c = '<' then true
      -- A bracket may close a link around the address.
      else if c = ']' then
        match r with
        | [] => true
        | d :: _ => isGap d || d == '(' || d == '[' || trailEnds 0 r
      else Text.isSpace c

/-- What is known of a host name that is being read: whether anything stands in it, and whether there is an
underscore in its last label and in the one before. -/
structure HostScan where
  seen : Bool := false
  last : Bool := false
  before : Bool := false

/-- The length of a host name in plain text. -/
def hostSize? (s : HostScan) : List Char → Option Nat
  | [] => if s.seen && !s.last && !s.before then some 0 else none
  | c :: r =>
    let done := if s.seen && !s.last && !s.before then some 0 else none
    if c = '.' ∨ c = '_' then
      if trailEnds 0 (c :: r) then done
      else
        let t := if c = '_' then { s with last := true } else { s with before := s.last, last := false }
        (hostSize? t r).map (· + 1)
    else if c = '-' then (hostSize? s r).map (· + 1)
    else if Text.isSpace c ∨ Unicode.isPunctuation c then done
    else (hostSize? { s with seen := true } r).map (· + 1)

/-- Punctuation that may end an address. -/
def mayEnd (c : Char) : Bool := isTrailing c || c == '&' || c == '<' || c == ']'

/-- The length of what follows a host name, with the numbers of parentheses opened and closed in it. A closing
parenthesis with a partner belongs to the address. -/
def pathSize (opened closed : Nat) : List Char → Nat
  | [] => 0
  | c :: r =>
    if c = '(' then pathSize (opened + 1) closed r + 1
    else if mayEnd c then
      if trailEnds 0 (c :: r) ∧ ¬ (c = ')' ∧ closed < opened) then 0
      else pathSize opened (if c = ')' then closed + 1 else closed) r + 1
    else if Text.isSpace c then 0
    else pathSize opened closed r + 1

/-- The length of a host name and what follows it. -/
def hostAndPath? (cs : List Char) : Option Nat :=
  (hostSize? {} cs).map fun n => n + pathSize 0 0 (cs.drop n)

/-- A text begins with a word, in whatever case. -/
def beginsWith (word : String) (cs : List Char) : Bool :=
  (cs.take word.length).map Char.toLower == word.toList

/-- The length of a web address with its scheme, behind a given character. -/
def webAddress? (previous : Option Char) (cs : List Char) : Option Nat :=
  if (previous.map Char.isAlpha).getD false then none
  else
    let scheme := if beginsWith "https://" cs then 8 else if beginsWith "http://" cs then 7 else 0
    if scheme = 0 then none else (hostAndPath? (cs.drop scheme)).map (· + scheme)

/-- A web address without its scheme may stand behind this character. -/
def mayPrecedeWww (c : Char) : Bool :=
  isGap c || c == '(' || c == '*' || c == '_' || c == '[' || c == ']' || c == '~'

/-- The length of a web address without its scheme, behind a given character. -/
def wwwAddress? (previous : Option Char) (cs : List Char) : Option Nat :=
  if (previous.map mayPrecedeWww).getD true ∧ beginsWith "www." cs ∧ 4 < cs.length then hostAndPath? cs
  else none

/-- A web address in plain text, behind a given character. -/
def plainAddress? (previous : Option Char) (cs : List Char) : Option (Address × Nat) :=
  match webAddress? previous cs with
  | some n => some (.full, n)
  | none => (wwwAddress? previous cs).map fun n => (.www, n)

/-- The length of the host name of a mail address in plain text. It has a dot and ends in a letter; with
`slashes`, slashes may stand in it. -/
def mailHostSize (slashes : Bool) : List Char → Nat
  | [] => 0
  | c :: r =>
    let goesOn := c.isAlphanum || c == '-' || c == '_' || (c == '/' && slashes) ||
      (c == '.' && (r.head?.map Char.isAlphanum).getD false)
    if goesOn then mailHostSize slashes r + 1 else 0

/-- A character before the at sign of a mail address in plain text. -/
def isPlainMailboxChar (c : Char) : Bool := c.isAlphanum || c == '+' || c == '-' || c == '.' || c == '_'

/-- A mail address around an at sign: the kind of address, and how far it reaches before the sign and behind
it. The text before is given last character first. -/
def plainMail? (before behind : List Char) : Option (Address × Nat × Nat) :=
  let mailbox := before.takeWhile isPlainMailboxChar
  let earlier := before.drop mailbox.length
  if mailbox.isEmpty ∨ earlier.head? = some '/' then none
  else
    -- What is before the mailbox may be a scheme, read backwards.
    let scheme := match earlier with
      | ':' :: r => (r.takeWhile Char.isAlphanum).reverse.map Char.toLower
      | _ => []
    let chat := scheme == "xmpp".toList
    let host := behind.take (mailHostSize chat behind)
    if host.contains '.' ∧ (host.getLast?.map Char.isAlpha).getD false then
      if chat ∨ scheme == "mailto".toList then
        some (.full, mailbox.length + 1 + scheme.length, host.length)
      else some (.mail, mailbox.length, host.length)
    else none

end LinkEmbed.Markdown
