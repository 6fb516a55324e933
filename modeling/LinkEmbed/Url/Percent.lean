import LinkEmbed.Text.Literal

/-!
# Percent-encoding

Bytes written as `%` and two digits. Characters outside ASCII and controls are always encoded, byte by
byte of their UTF-8 form; which others are depends on the part of a URL.
-/

namespace LinkEmbed.Percent

/-- The bytes of a character in UTF-8. -/
def bytes (c : Char) : List Nat := (String.utf8EncodeChar c).map UInt8.toNat

/-- An upper-case hexadecimal digit. -/
def upperHexDigit (n : Nat) : Char := if n < 10 then Char.ofNat (48 + n) else Char.ofNat (55 + n)

/-- One byte encoded. -/
def encodeByte (b : Nat) : List Char := ['%', upperHexDigit (b / 16), upperHexDigit (b % 16)]

/-- Encode a character if it is outside printable ASCII or in the set given. -/
def encodeChar (set : List Char) (c : Char) : List Char :=
  if c.toNat < 0x20 ∨ 0x7F ≤ c.toNat ∨ set.contains c then (bytes c).flatMap encodeByte else [c]

/-- Encode a text. -/
def encode (set : List Char) (cs : List Char) : List Char := cs.flatMap (encodeChar set)

/-- The set for fragments. -/
def fragmentSet : List Char := [' ', '"', '<', '>', '`']

/-- The set for paths. -/
def pathSet : List Char := fragmentSet ++ ['#', '?', '{', '}']

/-- The set for names and passwords. -/
def userSet : List Char := pathSet ++ ['/', ':', ';', '=', '@', '[', '\\', ']', '^', '|']

/-- The set for queries. -/
def querySet : List Char := [' ', '"', '#', '<', '>']

/-- The set for queries of the schemes of the web. -/
def specialQuerySet : List Char := '\'' :: querySet

/-- The bytes of a text, where `%` and two digits are one byte. -/
def decode : List Char → List UInt8
  | [] => []
  | '%' :: a :: b :: r =>
    match Text.hexValue? a, Text.hexValue? b with
    | some x, some y => UInt8.ofNat (16 * x + y) :: decode r
    | _, _ => '%'.toUInt8 :: decode (a :: b :: r)
  | c :: r => (bytes c).map UInt8.ofNat ++ decode r

/-- One byte of a form field: letters, digits and `*-._` stay, a blank becomes a plus sign. -/
def encodeFormChar (c : Char) : List Char :=
  if c.isAlphanum ∨ c ∈ ['*', '-', '.', '_'] then [c]
  else if c = ' ' then ['+']
  else (bytes c).flatMap encodeByte

/-- A text as the value of a form field. -/
def encodeForm (s : String) : String := String.ofList (s.toList.flatMap encodeFormChar)

end LinkEmbed.Percent
