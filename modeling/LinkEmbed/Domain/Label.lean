import LinkEmbed.Unicode.Classes
import LinkEmbed.Unicode.Normalize
import LinkEmbed.Domain.MappingTable

/-!
# Labels

The parts of a domain name between its dots: how characters are mapped before a label is looked at, and
which labels of any characters are valid (UTS 46, with the rules on joiners and on direction).
-/

namespace LinkEmbed.Domain

/-! ## Mapping -/

/-- What one or more characters in a row stand for. -/
inductive Target where
  /-- The same characters for each. -/
  | fixed (chars : List Nat)
  /-- A run that begins with the number given. -/
  | run (first : Nat)
  /-- The same for every other character; those between stay. -/
  | alternate (first : Nat)

/-- Read an entry of the mapping. -/
def mappingOfWord (w : List Char) : Nat × Nat × Target :=
  if w.contains '/' then
    let (range, first) := Text.cutAt (· == '/') w
    let (a, b) := Text.Ranges.ofWord range
    (a, b, .alternate (Text.ofHex first))
  else
    let (range, rest) := Text.cutAt (· == '=') w
    let (a, b) := Text.Ranges.ofWord range
    if range.contains '-' then (a, b, .run (Text.ofHex rest))
    else (a, b, .fixed ((Text.splitWhere (· == '.') rest).map Text.ofHex))

/-- The mapping in order of the characters it begins with. -/
def mapping : Array (Nat × Nat × Target) := ((Text.words mappingText).map mappingOfWord).toArray

/-- What a character stands for, if it stands for others. -/
def mapped? (c : Nat) : Option (List Nat) :=
  match Text.Ranges.lastAtMost (fun e : Nat × Nat × Target => e.1) mapping c 0 mapping.size with
  | 0 => none
  | i + 1 =>
    match mapping[i]? with
    | none => none
    | some (a, b, target) =>
      if b < c then none
      else
        match target with
        | .fixed chars => some chars
        | .run first => some [first + (c - a)]
        | .alternate first => if (c - a) % 2 = 0 then some [first + (c - a)] else none

/-- The characters that a character becomes; none at all when no name may hold it. -/
def mapChar? (c : Nat) : Option (List Nat) :=
  if valid.contains c then some [c]
  else if ignored.contains c then some []
  else mapped? c

/-- Map all characters and bring the result into normal form. -/
def mapName? (cs : List Char) : Option (List Char) :=
  ((cs.mapM fun c => mapChar? c.toNat).map List.flatten).map fun ns =>
    (Unicode.normalize ns).map Char.ofNat

/-! ## Validity -/

/-- A joiner may stand behind a mark that ends a conjunct. -/
def virama (c : Nat) : Bool := Unicode.combiningClass c == 9

/-- The characters that keep letters from joining or make them join. -/
def nonJoiner : Nat := 0x200C
def joiner : Nat := 0x200D

/-- Look through transparent characters for one that joins to the side wanted. -/
def joinsNext (side : Text.Ranges) : List Nat → Bool
  | [] => false
  | c :: r =>
    if Unicode.joinsThrough.contains c then joinsNext side r
    else side.contains c || Unicode.joinsBoth.contains c

/-- Every joiner in a label stands where it changes how the label looks. The first list holds what comes
before, last first. -/
def joinersFit : List Nat → List Nat → Bool
  | _, [] => true
  | before, c :: r =>
    let afterVirama := (before.head?.map virama).getD false
    let fits :=
      if c = nonJoiner then
        afterVirama || (joinsNext Unicode.joinsLeft before && joinsNext Unicode.joinsRight r)
      else if c = joiner then afterVirama
      else true
    fits && joinersFit (c :: before) r

/-- A character that makes a name subject to the rules on direction. -/
def isRightToLeft (c : Nat) : Bool := Unicode.rightToLeft.contains c || Unicode.arabicDigits.contains c

/-- The last character that is no mark satisfies `p`. -/
def endsWith (p : Nat → Bool) (label : List Nat) : Bool :=
  match label.reverse.dropWhile Unicode.nonspacing.contains with
  | [] => false
  | c :: _ => p c

/-- The class of characters without a direction of their own. -/
def hasNoDirection (c : Nat) : Bool := Unicode.neutral.contains c || Unicode.nonspacing.contains c

/-- A letter written from left to right. -/
def isLeftToRight (c : Nat) : Bool :=
  !(isRightToLeft c || Unicode.europeanDigits.contains c || hasNoDirection c)

/-- The rules on direction for one label of a name that holds characters written from right to left. -/
def directionFits (label : List Nat) : Bool :=
  match label with
  | [] => true
  | c :: _ =>
    if Unicode.rightToLeft.contains c then
      label.all (fun c => isRightToLeft c || Unicode.europeanDigits.contains c || hasNoDirection c) &&
        endsWith (fun c => isRightToLeft c || Unicode.europeanDigits.contains c) label &&
        !(label.any Unicode.arabicDigits.contains && label.any Unicode.europeanDigits.contains)
    else if isLeftToRight c then
      label.all (fun c => isLeftToRight c || Unicode.europeanDigits.contains c || hasNoDirection c) &&
        endsWith (fun c => isLeftToRight c || Unicode.europeanDigits.contains c) label
    else false

/-- A label of any characters is valid: it does not begin with a mark and its joiners fit. -/
def isValidLabel (label : List Nat) : Bool :=
  !((label.head?.map Unicode.marks.contains).getD false) && joinersFit [] label

end LinkEmbed.Domain
