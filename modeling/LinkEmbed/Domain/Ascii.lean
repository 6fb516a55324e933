import LinkEmbed.Domain.Label
import LinkEmbed.Domain.Punycode

/-!
# Domain names in ASCII

A domain name as it is looked up: mapped, each label checked, and labels of other characters written in
letters, digits and hyphens.
-/

namespace LinkEmbed.Domain

/-- What a label of other characters begins with once it is written in ASCII. -/
def marker : List Char := ['x', 'n', '-', '-']

/-- Characters that no domain name may hold. -/
def isForbidden (c : Char) : Bool :=
  c.toNat ≤ 0x20 || c.toNat == 0x7F || "#/:<>?@[\\]^|%".toList.contains c

/-- The characters that a mapped label stands for, and the label in ASCII. -/
def asciiLabel? (label : List Char) : Option (List Nat × List Char) :=
  if marker.isPrefixOf label then
    match Punycode.decode? (label.drop 4) with
    | none => none
    | some chars =>
      let ns := chars.map Char.toNat
      if chars.all (fun c => c.toNat < 128) || mapName? chars != some chars || !isValidLabel ns ||
        !chars.all (fun c => valid.contains c.toNat) then none
      else some (ns, marker ++ Punycode.encode chars)
  else if label.all fun c => c.toNat < 128 then some (label.map Char.toNat, label)
  else
    let ns := label.map Char.toNat
    if isValidLabel ns then some (ns, marker ++ Punycode.encode label) else none

/-- The name in ASCII, unless it is no domain name. Empty labels are let through. -/
def toAscii? (name : List Char) : Option (List Char) := do
  let mapped ← mapName? name
  let labels ← (Text.splitWhere (· == '.') mapped).mapM asciiLabel?
  let anyRightToLeft := labels.any fun l => l.1.any isRightToLeft
  if anyRightToLeft && !labels.all fun l => directionFits l.1 then none
  else if labels.any fun l => l.2.any isForbidden then none
  else some (List.intercalate ['.'] (labels.map Prod.snd))

end LinkEmbed.Domain
