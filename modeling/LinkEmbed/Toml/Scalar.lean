import LinkEmbed.Toml.Basic

/-!
# TOML: names and scalars

Reading texts, numbers, dates and names. Every reader takes the characters that are left and answers with
what it read and what is left then, or not at all.
-/

namespace LinkEmbed.Toml

/-- A reader: what it read, and what is left. -/
abbrev Reader (α : Type) := List Char → Option (α × List Char)

/-- Blanks within a line. -/
def isBlank (c : Char) : Bool := c == ' ' || c == '\t'

/-- Skip blanks within a line. -/
def skipBlank (cs : List Char) : List Char := cs.dropWhile isBlank

/-- A character that may stand in texts and comments. -/
def isPlain (c : Char) : Bool := c == '\t' || (c.toNat ≥ 0x20 && c.toNat != 0x7F)

/-- The end of a line. -/
def newline? : List Char → Option (List Char)
  | '\n' :: r => some r
  | '\r' :: '\n' :: r => some r
  | _ => none

/-! ## Texts -/

/-- A number of hexadecimal digits as a character. -/
def escapedChar (digits : Nat) (cs : List Char) : Option (Char × List Char) :=
  let ds := cs.take digits
  if ds.length = digits ∧ ds.all (fun c => (Text.hexValue? c).isSome) = true then
    let n := Text.ofHex ds
    if n.isValidChar then some (Char.ofNat n, cs.drop digits) else none
  else none

/-- An escape behind its backslash. -/
def escape (cs : List Char) : Option (Char × List Char) :=
  match cs with
  | 'b' :: r => some ('\x08', r)
  | 't' :: r => some ('\t', r)
  | 'n' :: r => some ('\n', r)
  | 'f' :: r => some ('\x0c', r)
  | 'r' :: r => some ('\r', r)
  | '"' :: r => some ('"', r)
  | '\\' :: r => some ('\\', r)
  | 'u' :: r => escapedChar 4 r
  | 'U' :: r => escapedChar 8 r
  | _ => none

/-- A text behind its opening quote. The first argument bounds its length. -/
def basicText : Nat → List Char → Reader String
  | 0, _, _ => none
  | fuel + 1, acc, cs =>
    match cs with
    | '"' :: r => some (String.ofList acc.reverse, r)
    | '\\' :: r => (escape r).bind fun (c, r) => basicText fuel (c :: acc) r
    | c :: r => if isPlain c then basicText fuel (c :: acc) r else none
    | [] => none

/-- A text without escapes behind its opening quote. -/
def literalText (cs : List Char) : Option (String × List Char) :=
  let value := cs.takeWhile (· != '\'')
  match cs.dropWhile (· != '\'') with
  | _ :: r => if value.all isPlain then some (String.ofList value, r) else none
  | [] => none

/-- A line end behind a backslash, with all white space that follows. -/
def continuation? (cs : List Char) : Option (List Char) :=
  (newline? (skipBlank cs)).map go
where
  /-- Skip white space and line ends. -/
  go : List Char → List Char
    | '\n' :: r => go r
    | '\r' :: '\n' :: r => go r
    | c :: r => if isBlank c then go r else c :: r
    | [] => []

/-- A text over several lines behind its opening quotes; `quote` is the kind of quotes, and `escapes` tells
whether a backslash is special. Up to two more quotes may stand directly before the closing ones. -/
def longText (quote : Char) (escapes : Bool) : Nat → List Char → Reader String
  | 0, _, _ => none
  | fuel + 1, acc, cs =>
    match cs with
    | [] => none
    | c :: r =>
      if c = quote then
        let run := (cs.takeWhile (· == quote)).length
        if run < 3 then longText quote escapes fuel (c :: acc) r
        else
          -- Up to two quotes may stand in front of the three that end the text.
          let extra := min (run - 3) 2
          some (String.ofList (acc.reverse ++ List.replicate extra quote), cs.drop (extra + 3))
      else if c = '\\' && escapes then
        match continuation? r with
        | some r => longText quote escapes fuel acc r
        | none => (escape r).bind fun (c, r) => longText quote escapes fuel (c :: acc) r
      else
        match newline? cs with
        | some r => longText quote escapes fuel ('\n' :: acc) r
        | none => if isPlain c then longText quote escapes fuel (c :: acc) r else none

/-- A line end directly behind the opening quotes does not count. -/
def longBody (cs : List Char) : List Char := (newline? cs).getD cs

/-- A text of any kind. -/
def readText (cs : List Char) : Option (String × List Char) :=
  let fuel := cs.length
  match cs with
  | '"' :: '"' :: '"' :: r => longText '"' true fuel [] (longBody r)
  | '\'' :: '\'' :: '\'' :: r => longText '\'' false fuel [] (longBody r)
  | '"' :: r => basicText fuel [] r
  | '\'' :: r => literalText r
  | _ => none

/-! ## Names -/

/-- A character of a name without quotes. -/
def isBare (c : Char) : Bool := c.isAlphanum || c == '_' || c == '-'

/-- One part of a name. -/
def readNamePart (cs : List Char) : Option (String × List Char) :=
  match cs with
  | '"' :: r => basicText cs.length [] r
  | '\'' :: r => literalText r
  | cs =>
    match cs.takeWhile isBare with
    | [] => none
    | name => some (String.ofList name, cs.dropWhile isBare)

/-- The parts of a name with points between them and blanks around them. The first argument bounds their
number. -/
def readNameParts : Nat → Reader (List String)
  | 0, _ => none
  | fuel + 1, cs => do
    let (part, cs) ← readNamePart (skipBlank cs)
    match skipBlank cs with
    | '.' :: r =>
      let (parts, r) ← readNameParts fuel r
      some (part :: parts, r)
    | cs => some ([part], cs)

/-- A name. -/
def readName (cs : List Char) : Option (List String × List Char) :=
  readNameParts (depthLimit - 1) cs

/-! ## Numbers -/

/-- Digits that may have single underscores between them. -/
def readDigits (isDigit : Char → Bool) (cs : List Char) : Option (List Char × List Char) :=
  let run := cs.takeWhile fun c => isDigit c || c == '_'
  let rest := cs.dropWhile fun c => isDigit c || c == '_'
  let parts := Text.splitWhere (· == '_') run
  if parts.any List.isEmpty then none else some (run.filter (· != '_'), rest)

/-- A decimal number without a point: no zeros at the front. -/
def readDecimal (cs : List Char) : Option (List Char × List Char) :=
  match cs with
  | '0' :: r => some (['0'], r)
  | c :: _ => if c.isDigit then readDigits Char.isDigit cs else none
  | [] => none

/-- An integer of 64 bits. -/
def toInteger (negative : Bool) (base : Nat) (digits : List Char) : Option Toml :=
  let n := digits.foldl (fun n c => base * n + (Text.hexValue? c).getD 0) 0
  if negative then if n ≤ 0x8000000000000000 then some (.integer (-(n : Int))) else none
  else if n < 0x8000000000000000 then some (.integer n) else none

/-- An exponent, with its sign. -/
def readExponent (cs : List Char) : Option (List Char × List Char) := do
  let (sign, cs) := match cs with
    | '+' :: r => (['+'], r)
    | '-' :: r => (['-'], r)
    | cs => ([], cs)
  let (digits, cs) ← readDigits Char.isDigit cs
  some ('e' :: sign ++ digits, cs)

/-- A floating point number that is not too large above zero. -/
def toFloat (negative : Bool) (written : List Char) : Option Toml :=
  let s := String.ofList (if negative then '-' :: written else written)
  match Binary64.read? s with
  | some (.infinite false) => none
  | some _ => some (.float s)
  | none => none

/-- A number without its sign. -/
def readUnsigned (negative : Bool) (cs : List Char) : Option (Toml × List Char) := do
  let (whole, cs) ← readDecimal cs
  match cs with
  | '.' :: r =>
    let (part, r) ← readDigits Char.isDigit r
    let (power, r) ← match r with
      | 'e' :: r => readExponent r
      | 'E' :: r => readExponent r
      | r => some ([], r)
    (toFloat negative (whole ++ '.' :: part ++ power)).map fun v => (v, r)
  | 'e' :: r =>
    let (power, r) ← readExponent r
    (toFloat negative (whole ++ power)).map fun v => (v, r)
  | 'E' :: r =>
    let (power, r) ← readExponent r
    (toFloat negative (whole ++ power)).map fun v => (v, r)
  | cs => (toInteger negative 10 whole).map fun v => (v, cs)

/-- An integer to a base, behind the letter of the base. -/
def readBased (base : Nat) (cs : List Char) : Option (Toml × List Char) := do
  let isDigit (c : Char) : Bool := match Text.hexValue? c with
    | some d => d < base
    | none => false
  let (digits, cs) ← readDigits isDigit cs
  (toInteger false base digits).map fun v => (v, cs)

/-! ## Dates -/

/-- A number of exactly so many digits, within bounds. -/
def fixedNumber (digits lo hi : Nat) (cs : List Char) : Option (Nat × List Char) :=
  let ds := cs.take digits
  if ds.length = digits ∧ ds.all Char.isDigit = true then
    let n := ds.foldl (fun n c => 10 * n + (Text.hexValue? c).getD 0) 0
    if lo ≤ n ∧ n ≤ hi then some (n, cs.drop digits) else none
  else none

/-- The number of days of a month. -/
def daysOf (year month : Nat) : Nat :=
  if month = 2 then
    if year % 4 = 0 ∧ (year % 100 ≠ 0 ∨ year % 400 = 0) then 29 else 28
  else if [4, 6, 9, 11].contains month then 30 else 31

/-- A character that has to stand here. -/
def expect (c : Char) : List Char → Option (List Char)
  | d :: r => if d = c then some r else none
  | [] => none

/-- What is left behind a time of day. -/
def skipTime (cs : List Char) : Option (List Char) := do
  let (_, cs) ← fixedNumber 2 0 23 cs
  let cs ← expect ':' cs
  let (_, cs) ← fixedNumber 2 0 59 cs
  let cs ← expect ':' cs
  let (_, cs) ← fixedNumber 2 0 60 cs
  match cs with
  | '.' :: r => if (r.head?.map Char.isDigit).getD false then some (r.dropWhile Char.isDigit) else none
  | cs => some cs

/-- What is left behind the distance from universal time. -/
def skipOffset (cs : List Char) : Option (List Char) :=
  match cs with
  | 'Z' :: r => some r
  | 'z' :: r => some r
  | c :: r =>
    if c = '+' ∨ c = '-' then do
      let (_, r) ← fixedNumber 2 0 23 r
      let r ← expect ':' r
      let (_, r) ← fixedNumber 2 0 59 r
      some r
    else some cs
  | [] => some []

/-- What is left behind a date, with or without a time. -/
def skipDate (cs : List Char) : Option (List Char) := do
  let (year, cs) ← fixedNumber 4 0 9999 cs
  let cs ← expect '-' cs
  let (month, cs) ← fixedNumber 2 1 12 cs
  let cs ← expect '-' cs
  let (_, cs) ← fixedNumber 2 1 (daysOf year month) cs
  match cs with
  | c :: r =>
    if c = 'T' ∨ c = 't' ∨ c = ' ' then
      match skipTime r with
      | some r => skipOffset r
      -- A blank may also end the date.
      | none => some cs
    else some cs
  | [] => some []

/-- Whether a date begins here: four digits and a hyphen. -/
def startsDate (cs : List Char) : Bool :=
  (cs.take 4).length == 4 && (cs.take 4).all Char.isDigit && cs[4]? == some '-'

/-- Whether a time begins here: two digits and a colon. -/
def startsTime (cs : List Char) : Bool :=
  (cs.take 2).length == 2 && (cs.take 2).all Char.isDigit && cs[2]? == some ':'

/-- What a reader took of a text. -/
def takenOf (before after : List Char) : String := String.ofList (before.take (before.length - after.length))

/-- A number or a date. -/
def readNumber (cs : List Char) : Option (Toml × List Char) :=
  if startsDate cs then (skipDate cs).map fun r => (.date (takenOf cs r), r)
  else if startsTime cs then (skipTime cs).map fun r => (.date (takenOf cs r), r)
  else
    match cs with
    | '0' :: 'x' :: r => readBased 16 r
    | '0' :: 'o' :: r => readBased 8 r
    | '0' :: 'b' :: r => readBased 2 r
    | '+' :: r => readUnsigned false r
    | '-' :: r => readUnsigned true r
    | cs => readUnsigned false cs

/-- A word that has to stand here. -/
def readWord (word : String) (v : Toml) (cs : List Char) : Option (Toml × List Char) :=
  if word.toList.isPrefixOf cs then some (v, cs.drop word.length) else none

/-- A scalar of any kind. -/
def readScalar (cs : List Char) : Option (Toml × List Char) :=
  match cs with
  | 't' :: _ => readWord "true" (.bool true) cs
  | 'f' :: _ => readWord "false" (.bool false) cs
  | 'i' :: _ => readWord "inf" (.float "inf") cs
  | 'n' :: _ => readWord "nan" (.float "nan") cs
  | '+' :: 'i' :: r => readWord "inf" (.float "inf") ('i' :: r)
  | '+' :: 'n' :: r => readWord "nan" (.float "nan") ('n' :: r)
  | '-' :: 'i' :: r => readWord "inf" (.float "-inf") ('i' :: r)
  | '-' :: 'n' :: r => readWord "nan" (.float "nan") ('n' :: r)
  | '"' :: _ => (readText cs).map fun (s, r) => (.text s, r)
  | '\'' :: _ => (readText cs).map fun (s, r) => (.text s, r)
  | cs => readNumber cs

end LinkEmbed.Toml
