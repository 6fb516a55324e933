import LinkEmbed.Binary64.Basic

/-!
# Reading floating point numbers

Decimal numbers with an optional sign, fraction and exponent, and the words `inf`, `infinity` and `nan`
in any case. The result is the nearest number, however many digits are given.
-/

namespace LinkEmbed.Binary64

/-- The value of a decimal digit of ASCII. -/
def digitValue (c : Char) : Nat := c.toNat - '0'.toNat

/-- The natural number a list of decimal digits spells. -/
def ofDigits (cs : List Char) : Nat :=
  cs.foldl (fun n c => 10 * n + digitValue c) 0

/-- Split an optional sign off; the flag tells whether it is a minus. -/
def splitSign : List Char → Bool × List Char
  | '-' :: r => (true, r)
  | '+' :: r => (false, r)
  | cs => (false, cs)

/-- The exponent part: nothing, or `e` with an optional sign and at least one digit to the end. -/
def readExponent? : List Char → Option Int
  | [] => some 0
  | e :: r =>
    if e == 'e' || e == 'E' then
      let (negative, digits) := splitSign r
      if digits.isEmpty || !digits.all Char.isDigit then none
      else some (if negative then -(ofDigits digits : Int) else ofDigits digits)
    else none

/-- An unsigned decimal: digits before or after an optional point, at least one of them. -/
def readDecimal? (negative : Bool) (cs : List Char) : Option Binary64 :=
  let whole := cs.takeWhile Char.isDigit
  let rest := cs.dropWhile Char.isDigit
  let (part, rest) :=
    match rest with
    | '.' :: r => (r.takeWhile Char.isDigit, r.dropWhile Char.isDigit)
    | r => ([], r)
  if whole.isEmpty && part.isEmpty then none
  else
    (readExponent? rest).map fun e =>
      ofScientific negative (ofDigits (whole ++ part)) (e - part.length)

/-- The nearest number to the one that a text spells. -/
def read? (s : String) : Option Binary64 :=
  let (negative, cs) := splitSign s.toList
  match String.ofList (cs.map Char.toLower) with
  | "inf" => some (.infinite negative)
  | "infinity" => some (.infinite negative)
  | "nan" => some .nan
  | _ => readDecimal? negative cs

end LinkEmbed.Binary64
