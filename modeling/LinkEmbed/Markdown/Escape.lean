import LinkEmbed.Html.Entity
import LinkEmbed.Unicode.CaseFold
import LinkEmbed.Unicode.Punctuation

/-!
# Escapes, references and labels

A backslash before ASCII punctuation takes away its meaning, and a character reference stands for characters
by name or number. Both count in text, and also in destinations, titles and the languages of code blocks
(`unescape`). Labels are compared without case, and with any gap in them as one blank (`foldLabel`).
-/

namespace LinkEmbed.Markdown

open Unicode (isAsciiPunctuation)

/-- The character that a number stands for. Controls and code points that are no characters stand for the
replacement character. -/
def referencedChar (n : Nat) : Char :=
  let control := n ≤ 8 ∨ n = 0x0B ∨ (0x0E ≤ n ∧ n ≤ 0x1F) ∨ (0x7F ≤ n ∧ n ≤ 0x9F)
  let noCharacter := (0xFDD0 ≤ n ∧ n ≤ 0xFDEF) ∨ n % 0x10000 = 0xFFFE ∨ n % 0x10000 = 0xFFFF
  if control ∨ noCharacter ∨ 0x10FFFF < n ∨ (0xD800 ≤ n ∧ n ≤ 0xDFFF) then '\uFFFD' else Char.ofNat n

/-- The digits of a numeric reference with its semicolon, at most `limit` of them: the length of all, and the
character. -/
def numericReference? (base limit : Nat) (isDigit : Char → Bool) (cs : List Char) : Option (Nat × List Char) :=
  let digits := cs.takeWhile isDigit
  if 0 < digits.length ∧ digits.length ≤ limit ∧ (cs.drop digits.length).head? = some ';' then
    let n := digits.foldl (fun n c => base * n + (Text.hexValue? c).getD 0) 0
    some (digits.length + 1, [referencedChar n])
  else none

/-- The longest name of a reference. -/
def longestReferenceName : Nat := 31

/-- A character reference behind its ampersand: its length and what it stands for. -/
def reference? : List Char → Option (Nat × List Char)
  | '#' :: 'x' :: r | '#' :: 'X' :: r =>
    (numericReference? 16 6 (fun c => (Text.hexValue? c).isSome) r).map fun (n, cs) => (n + 2, cs)
  | '#' :: r => (numericReference? 10 7 Char.isDigit r).map fun (n, cs) => (n + 1, cs)
  | cs =>
    let name := cs.takeWhile Char.isAlphanum
    if 0 < name.length ∧ name.length ≤ longestReferenceName ∧ (cs.drop name.length).head? = some ';' then
      (Html.findEntity? (String.ofList (name ++ [';']))).map fun chars => (name.length + 1, chars)
    else none

/-- A text with what its escapes and references stand for; the first `skip` characters are passed over. -/
def unescapeFrom (skip : Nat) : List Char → List Char
  | [] => []
  | c :: r =>
    match skip with
    | n + 1 => unescapeFrom n r
    | 0 =>
      match c, r with
      | '\\', d :: _ => if isAsciiPunctuation d then d :: unescapeFrom 1 r else c :: unescapeFrom 0 r
      | '&', _ =>
        match reference? r with
        | some (n, chars) => chars ++ unescapeFrom n r
        | none => c :: unescapeFrom 0 r
      | _, _ => c :: unescapeFrom 0 r

/-- A text with what its escapes and references stand for. -/
def unescape (cs : List Char) : String := String.ofList (unescapeFrom 0 cs)

/-- A gap of a label: a blank, a tab, or a character of a line end. -/
def isLabelGap (c : Char) : Bool := c == ' ' || c == '\t' || c == '\n' || c == '\r'

/-- The words of a label with one blank between them. -/
def joinWords (cs : List Char) : List Char :=
  List.intercalate [' '] ((Text.splitWhere isLabelGap cs).filter fun w => !w.isEmpty)

/-- The form in which labels are compared. -/
def foldLabel (cs : List Char) : List Char := (joinWords cs).flatMap Unicode.foldCase

end LinkEmbed.Markdown
