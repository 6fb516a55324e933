import LinkEmbed.Json.Error
import LinkEmbed.Binary64.Reader

/-!
# JSON texts

A text of JSON as it is written: values with their places, in the order and as often as they stand there. A
text that is no JSON has a source too, which breaks off at the fault; whoever reads the source in order
comes to the fault in its turn.
-/

namespace LinkEmbed.Json

/-- What is wrong with the text at a place. -/
structure Fault where
  cause : SyntaxCause
  location : Location
deriving DecidableEq, Repr

/-- A name in an object. `stop` is the place behind it; `resume` is where reading would go on if the object
ended here. -/
structure Name where
  value : String
  /-- A surrogate in the name that stands for no character. -/
  bad : Option Fault
  stop : Location
  resume : Location

/-- A value as it is written, from `start` up to `stop`. -/
inductive Source where
  /-- No value stands here. -/
  | broken (start : Location) (fault : Fault)
  /-- `null`, a truth value or a number. -/
  | scalar (start stop : Location) (value : Json)
  /-- A number too large for a floating point number. -/
  | tooLarge (start stop : Location) (noticed : Location)
  /-- A text, perhaps with a surrogate that stands for no character. -/
  | text (start stop : Location) (value : String) (bad : Option Fault)
  /-- A list, perhaps with a fault behind its items. -/
  | list (start stop : Location) (items : List Source) (fault : Option Fault)
  /-- An object, perhaps with a fault behind its fields. -/
  | map (start stop : Location) (fields : List (Name × Source)) (fault : Option Fault)

/-- What is left of a text, and where that begins. -/
structure Cursor where
  rest : List Char
  loc : Location

namespace Cursor

/-- The place behind a character. -/
def after (l : Location) (c : Char) : Location :=
  if c = '\n' then ⟨l.line + 1, 0⟩ else ⟨l.line, l.column + c.utf8Size⟩

/-- The place behind the first byte of a character. -/
def afterByte (l : Location) (c : Char) : Location :=
  if c = '\n' then ⟨l.line + 1, 0⟩ else ⟨l.line, l.column + 1⟩

/-- The cursor behind the next character. -/
def advance (c : Cursor) : Cursor :=
  match c.rest with
  | [] => c
  | a :: r => ⟨r, after c.loc a⟩

/-- The place behind the first byte of what is left. -/
def peeked (c : Cursor) : Location :=
  match c.rest with
  | [] => c.loc
  | a :: _ => afterByte c.loc a

/-- Skip the characters at the front that satisfy `p`. -/
def skipWhile (p : Char → Bool) (c : Cursor) : Cursor :=
  ⟨c.rest.dropWhile p, (c.rest.takeWhile p).foldl after c.loc⟩

/-- Skip blanks and line ends. -/
def skipBlank (c : Cursor) : Cursor :=
  c.skipWhile fun a => a == ' ' || a == '\n' || a == '\t' || a == '\r'

end Cursor

/-! ## Numbers -/

/-- The largest significand that is kept exactly. -/
def maxSignificand : Nat := 0xFFFFFFFFFFFFFFFF

/-- Append digits to a significand as long as it fits 64 bits; the count tells how many were appended. -/
def growSignificand (s used : Nat) : List Char → Nat × Nat
  | [] => (s, used)
  | d :: r =>
    let t := 10 * s + Binary64.digitValue d
    if t ≤ maxSignificand then growSignificand t (used + 1) r else (s, used)

/-- Scale by a power of ten: multiply or divide by the number nearest to the power, in steps of at most 308
places; none when the result is too large. The first argument bounds the number of steps. -/
def scaleByTen : Nat → Binary64 → Int → Option Binary64
  | 0, f, _ => some f
  | steps + 1, f, e =>
    if e.natAbs ≤ 308 then
      let power := Binary64.ofScientific false 1 e.natAbs
      if 0 ≤ e then
        let g := f.mul power
        if g.isFinite then some g else none
      else some (f.div power)
    -- Zero stays zero, however far it is scaled.
    else if f.beq (Binary64.zero false) then some f
    else if 0 ≤ e then none
    else scaleByTen steps (f.div (Binary64.ofScientific false 1 308)) (e + 308)

/-- The number `s · 10^e`, or none when it is too large. -/
def scaled (negative : Bool) (s : Nat) (e : Int) : Option Binary64 :=
  (scaleByTen (e.natAbs / 308 + 2) (Binary64.ofInt s) e).map fun f => if negative then f.neg else f

/-- The largest exponent that is read; a longer one is infinite or zero. -/
def maxExponentDigits : Nat := 0x7FFFFFFF

/-- An exponent: its digits up to the one that makes it too large, and what is left. -/
def readExponentDigits (e : Nat) (c : Cursor) : List Char → Option Nat × Cursor
  | [] => (some e, c)
  | d :: r =>
    let n := 10 * e + Binary64.digitValue d
    if n ≤ maxExponentDigits then readExponentDigits n c.advance r else (none, c.advance)

/-- The end of a number: an exponent or nothing. -/
def readScale (start : Location) (negative : Bool) (s : Nat) (e : Int) (isFloat : Bool) (c : Cursor) :
    Source × Option Cursor :=
  let finish (value : Option Binary64) (c : Cursor) : Source × Option Cursor :=
    match value with
    | some x => (.scalar start c.loc (.float x), some c)
    | none => (.tooLarge start c.loc c.loc, some c)
  match c.rest with
  | 'e' :: _ | 'E' :: _ =>
    let c := c.advance
    let (down, c) :=
      match c.rest with
      | '+' :: _ => (false, c.advance)
      | '-' :: _ => (true, c.advance)
      | _ => (false, c)
    match c.rest with
    | [] => (.broken start ⟨.endInNumber, c.loc⟩, none)
    | d :: _ =>
      if !d.isDigit then (.broken start ⟨.badNumber, c.peeked⟩, none)
      else
        let digits := c.rest.takeWhile Char.isDigit
        let stop := c.skipWhile Char.isDigit
        match readExponentDigits 0 c digits with
        | (some n, _) => finish (scaled negative s (if down then e - n else e + n)) stop
        | (none, noticed) =>
          -- An exponent beyond all bounds makes a number too large, or zero if it is negative.
          if s ≠ 0 ∧ down = false then (.tooLarge start stop.loc noticed.loc, some stop)
          else (.scalar start stop.loc (.float (Binary64.zero negative)), some stop)
  | _ =>
    if isFloat then finish (scaled negative s e) c
    -- Minus zero and what 64 bits do not hold are no integers.
    else if negative ∧ (s = 0 ∨ 0x8000000000000000 < s) then
      (.scalar start c.loc (.float (Binary64.ofInt s).neg), some c)
    else (.scalar start c.loc (.integer (if negative then -(s : Int) else s)), some c)

/-- A number without its sign. -/
def readNumber (start : Location) (negative : Bool) (c : Cursor) : Source × Option Cursor :=
  match c.rest with
  | [] => (.broken start ⟨.endInNumber, c.loc⟩, none)
  | d :: r =>
    if !d.isDigit then (.broken start ⟨.badNumber, c.peeked⟩, none)
    -- Nothing but zero itself begins with a zero.
    else if d = '0' ∧ (r.head?.map Char.isDigit) = some true then
      (.broken start ⟨.badNumber, c.advance.peeked⟩, none)
    else
      let whole := c.rest.takeWhile Char.isDigit
      let c := c.skipWhile Char.isDigit
      let (s, used) := growSignificand 0 0 whole
      -- Digits that the significand has no room for count only by their number.
      let e : Int := whole.length - used
      match c.rest with
      | '.' :: _ =>
        let c := c.advance
        match c.rest.takeWhile Char.isDigit with
        | [] =>
          (.broken start ⟨if c.rest.isEmpty then .endInNumber else .badNumber, c.peeked⟩, none)
        | part =>
          let (s, used) := growSignificand s 0 part
          readScale start negative s (e - used) true (c.skipWhile Char.isDigit)
      | _ => readScale start negative s e (used < whole.length) c

/-! ## Texts -/

/-- Four hexadecimal digits of an escape. -/
def readHexEscape (c : Cursor) : Except Fault (Nat × Cursor) :=
  match c.rest with
  | a :: b :: d :: e :: _ =>
    let c := c.advance.advance.advance.advance
    match Text.hexValue? a, Text.hexValue? b, Text.hexValue? d, Text.hexValue? e with
    | some a, some b, some d, some e => .ok (((16 * a + b) * 16 + d) * 16 + e, c)
    | _, _, _, _ => .error ⟨.badEscape, c.loc⟩
  | r => .error ⟨.endInText, r.foldl Cursor.after c.loc⟩

/-- The character that stands for a surrogate without its partner. -/
def replacement : Char := '\uFFFD'

/-- One piece of a text: characters it stands for, and a fault that counts only if the text is wanted. -/
structure Piece where
  chars : List Char
  bad : Option Fault
  next : Cursor

/-- What follows a leading surrogate. -/
def readSurrogatePair (n : Nat) (c : Cursor) : Except Fault Piece :=
  match c.rest with
  | [] => .error ⟨.endInText, c.loc⟩
  | '\\' :: _ =>
    let d := c.advance
    match d.rest with
    | [] => .error ⟨.endInText, d.loc⟩
    -- The trailing surrogate of the pair should follow.
    | 'u' :: _ => do
      let (m, e) ← readHexEscape d.advance
      if 0xDC00 ≤ m ∧ m ≤ 0xDFFF then
        .ok ⟨[Char.ofNat (0x10000 + (n - 0xD800) * 0x400 + (m - 0xDC00))], none, e⟩
      else .ok ⟨[replacement], some ⟨.loneSurrogate, e.loc⟩, e⟩
    | _ => .ok ⟨[replacement], some ⟨.surrogateBrokenOff, d.peeked⟩, c⟩
  | _ => .ok ⟨[replacement], some ⟨.surrogateBrokenOff, c.peeked⟩, c⟩

/-- The rest of an escape, behind the backslash. -/
def readEscape (c : Cursor) : Except Fault Piece :=
  let plain (a : Char) : Except Fault Piece := .ok ⟨[a], none, c.advance⟩
  match c.rest with
  | [] => .error ⟨.endInText, c.loc⟩
  | '"' :: _ => plain '"'
  | '\\' :: _ => plain '\\'
  | '/' :: _ => plain '/'
  | 'b' :: _ => plain '\x08'
  | 'f' :: _ => plain '\x0c'
  | 'n' :: _ => plain '\n'
  | 'r' :: _ => plain '\r'
  | 't' :: _ => plain '\t'
  | 'u' :: _ => do
    let (n, d) ← readHexEscape c.advance
    -- The second half of a pair cannot stand alone; the first half wants the second.
    if 0xDC00 ≤ n ∧ n ≤ 0xDFFF then .ok ⟨[replacement], some ⟨.loneSurrogate, d.loc⟩, d⟩
    else if 0xD800 ≤ n ∧ n ≤ 0xDBFF then readSurrogatePair n d
    else .ok ⟨[Char.ofNat n], none, d⟩
  | _ => .error ⟨.badEscape, c.peeked⟩

/-- A text behind its opening quote: what it stands for, its first bad surrogate, and what is left behind
its closing quote. The first argument bounds the number of pieces. -/
def readText : Nat → List Char → Option Fault → Cursor → Except Fault (String × Option Fault × Cursor)
  | 0, _, _, c => .error ⟨.endInText, c.loc⟩
  | pieces + 1, acc, bad, c =>
    match c.rest with
    | [] => .error ⟨.endInText, c.loc⟩
    | '"' :: _ => .ok (String.ofList acc.reverse, bad, c.advance)
    | '\\' :: _ => do
      let p ← readEscape c.advance
      readText pieces (p.chars.reverse ++ acc) (bad.or p.bad) p.next
    | a :: _ =>
      if a.toNat < 0x20 then .error ⟨.controlCharacter, c.peeked⟩
      else readText pieces (a :: acc) bad c.advance

/-! ## Values -/

/-- The rest of a word whose first character told which one it is. -/
def readWord (start : Location) (value : Json) (c : Cursor) : List Char → Source × Option Cursor
  | [] => (.scalar start c.loc value, some c)
  | w :: ws =>
    match c.rest with
    | [] => (.broken start ⟨.endInValue, c.loc⟩, none)
    | a :: _ =>
      if a = w then readWord start value c.advance ws
      else (.broken start ⟨.wordWanted, c.peeked⟩, none)

/-- A name in an object, behind its opening quote. -/
def readName (c : Cursor) : Except Fault (Name × Cursor) := do
  let (value, bad, d) ← readText (c.rest.length + 1) [] none c
  let e := d.skipBlank
  let resume :=
    match e.rest with
    | '}' :: _ => e.advance.loc
    | _ => e.loc
  .ok (⟨value, bad, d.loc, resume⟩, d)

mutual

/-- A value. The first argument bounds the depth and length of what is read; the text's own length does. -/
def readValue : Nat → Cursor → Source × Option Cursor
  | 0, c => (.broken c.loc ⟨.endInValue, c.loc⟩, none)
  | fuel + 1, c =>
    let c := c.skipBlank
    let start := c.loc
    match c.rest with
    | [] => (.broken start ⟨.endInValue, start⟩, none)
    | 'n' :: _ => readWord start .null c.advance ['u', 'l', 'l']
    | 't' :: _ => readWord start (.bool true) c.advance ['r', 'u', 'e']
    | 'f' :: _ => readWord start (.bool false) c.advance ['a', 'l', 's', 'e']
    | '-' :: _ => readNumber start true c.advance
    | '"' :: _ =>
      match readText (c.rest.length + 1) [] none c.advance with
      | .ok (value, bad, d) => (.text start d.loc value bad, some d)
      | .error fault => (.broken start fault, none)
    -- What is read of a list before a fault is kept, as the fault may never be met.
    | '[' :: _ =>
      match readItems fuel true c.advance with
      | (items, .ok d) => (.list start d.loc items none, some d)
      | (items, .error fault) => (.list start start items fault, none)
    | '{' :: _ =>
      match readFields fuel true c.advance with
      | (fields, .ok d) => (.map start d.loc fields none, some d)
      | (fields, .error fault) => (.map start start fields fault, none)
    | a :: _ =>
      if a.isDigit then readNumber start false c else (.broken start ⟨.valueWanted, c.peeked⟩, none)

/-- The items of a list up to its closing bracket. An error without a fault tells that the last item is
broken. -/
def readItems : Nat → Bool → Cursor → List Source × Except (Option Fault) Cursor
  | 0, _, c => ([], .error (some ⟨.endInList, c.loc⟩))
  | fuel + 1, first, c =>
    let c := c.skipBlank
    let item (c : Cursor) : List Source × Except (Option Fault) Cursor :=
      match readValue fuel c with
      | (v, none) => ([v], .error none)
      | (v, some d) =>
        let (vs, result) := readItems fuel false d
        (v :: vs, result)
    match c.rest with
    | [] => ([], .error (some ⟨.endInList, c.loc⟩))
    | ']' :: _ => ([], .ok c.advance)
    | a :: _ =>
      -- Only the first item has no comma before it.
      if first then item c
      else if a = ',' then
        let d := c.advance.skipBlank
        match d.rest with
        | [] => ([], .error (some ⟨.endInValue, d.loc⟩))
        | ']' :: _ => ([], .error (some ⟨.listTrailingComma, d.peeked⟩))
        | _ => item d
      else ([], .error (some ⟨.listCommaWanted, c.peeked⟩))

/-- The fields of an object up to its closing brace. -/
def readFields : Nat → Bool → Cursor → List (Name × Source) × Except (Option Fault) Cursor
  | 0, _, c => ([], .error (some ⟨.endInObject, c.loc⟩))
  | fuel + 1, first, c =>
    let c := c.skipBlank
    -- A name, a colon and a value.
    let field (c : Cursor) : List (Name × Source) × Except (Option Fault) Cursor :=
      match readName c.advance with
      | .error fault => ([], .error (some fault))
      | .ok (name, d) =>
        let e := d.skipBlank
        match e.rest with
        | [] => ([(name, .broken e.loc ⟨.endInObject, e.loc⟩)], .error none)
        | ':' :: _ =>
          match readValue fuel e.advance with
          | (v, none) => ([(name, v)], .error none)
          | (v, some d) =>
            let (fs, result) := readFields fuel false d
            ((name, v) :: fs, result)
        | _ => ([(name, .broken e.loc ⟨.colonWanted, e.peeked⟩)], .error none)
    match c.rest with
    | [] => ([], .error (some ⟨.endInObject, c.loc⟩))
    | '}' :: _ => ([], .ok c.advance)
    | a :: _ =>
      if first then
        if a = '"' then field c else ([], .error (some ⟨.nameWanted, c.peeked⟩))
      else if a = ',' then
        let d := c.advance.skipBlank
        match d.rest with
        | [] => ([], .error (some ⟨.endAfterComma, d.loc⟩))
        | '"' :: _ => field d
        | '}' :: _ => ([], .error (some ⟨.objectTrailingComma, d.peeked⟩))
        | _ => ([], .error (some ⟨.nameWanted, d.peeked⟩))
      else ([], .error (some ⟨.objectCommaWanted, c.peeked⟩))

end

/-- A whole text: its value, and a fault if more than blanks follows it. -/
structure SourceText where
  value : Source
  trailing : Option Fault

/-- Read a text to its end or to its first fault. -/
def SourceText.read (s : String) : SourceText :=
  let c : Cursor := ⟨s.toList, {}⟩
  match readValue (2 * c.rest.length + 2) c with
  | (v, none) => ⟨v, none⟩
  | (v, some d) =>
    let e := d.skipBlank
    ⟨v, if e.rest.isEmpty then none else some ⟨.trailingCharacters, e.peeked⟩⟩

end LinkEmbed.Json
