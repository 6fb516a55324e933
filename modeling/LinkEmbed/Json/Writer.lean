import LinkEmbed.Json.Basic

/-!
# Writing JSON

A value on one line with no blanks. Controls, quotes and backslashes in texts are escaped, and nothing else.
-/

namespace LinkEmbed.Json

/-- Two hexadecimal digits. -/
def twoHexDigits (n : Nat) : List Char :=
  let d := Text.hexDigits n
  List.replicate (2 - d.length) '0' ++ d

/-- One character of a text. -/
def escapeChar (c : Char) : List Char :=
  if c = '"' then ['\\', '"']
  else if c = '\\' then ['\\', '\\']
  else if c = '\x08' then ['\\', 'b']
  else if c = '\x0c' then ['\\', 'f']
  else if c = '\n' then ['\\', 'n']
  else if c = '\r' then ['\\', 'r']
  else if c = '\t' then ['\\', 't']
  else if c.toNat < 0x20 then ['\\', 'u', '0', '0'] ++ twoHexDigits c.toNat
  else [c]

/-- A text in quotes. -/
def quote (s : String) : List Char := '"' :: s.toList.flatMap escapeChar ++ ['"']

mutual

/-- A value. What is no number and what is infinite is written as `null`. -/
def chars : Json → List Char
  | .null => ['n', 'u', 'l', 'l']
  | .bool true => ['t', 'r', 'u', 'e']
  | .bool false => ['f', 'a', 'l', 's', 'e']
  | .integer n => (toString n).toList
  | .float x => if x.isFinite then (floatText x).toList else ['n', 'u', 'l', 'l']
  | .text s => quote s
  | .array vs => '[' :: itemChars vs ++ [']']
  | .object fs => '{' :: fieldChars fs ++ ['}']

/-- The items of an array with commas between them. -/
def itemChars : List Json → List Char
  | [] => []
  | [v] => chars v
  | v :: r => chars v ++ ',' :: itemChars r

/-- The fields of an object with commas between them. -/
def fieldChars : List (String × Json) → List Char
  | [] => []
  | [(n, v)] => quote n ++ ':' :: chars v
  | (n, v) :: r => quote n ++ ':' :: chars v ++ ',' :: fieldChars r

end

/-- The value as text. -/
def write (v : Json) : String := String.ofList (chars v)

end LinkEmbed.Json
