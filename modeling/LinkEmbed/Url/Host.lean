import LinkEmbed.Url.Basic
import LinkEmbed.Url.Percent
import LinkEmbed.Domain.Ascii

/-!
# Reading URLs: hosts

Why a text is no URL, and how hosts are read: names, and addresses in any of their spellings.
-/

namespace LinkEmbed

/-- A cause for which a text is no URL. -/
inductive UrlError where
  | emptyHost
  | badDomain
  | badPort
  | badIpv4
  | badIpv6
  | badHostCharacter
  | relativeWithoutBase
  | relativeToOpaque
deriving DecidableEq, Repr, Inhabited

/-- The wording of a cause. -/
def UrlError.message : UrlError → String
  | .emptyHost => "empty host"
  | .badDomain => "invalid international domain name"
  | .badPort => "invalid port number"
  | .badIpv4 => "invalid IPv4 address"
  | .badIpv6 => "invalid IPv6 address"
  | .badHostCharacter => "invalid domain character"
  | .relativeWithoutBase => "relative URL without a base"
  | .relativeToOpaque => "relative URL with a cannot-be-a-base base"

namespace Host

/-! ## Addresses of 32 bits -/

/-- The numbers a part of an address can be. -/
inductive Part where
  | notANumber
  | tooLarge
  | value (n : Nat)
deriving DecidableEq

/-- The number that digits to a base spell. -/
def ofDigitsBase (base : Nat) (cs : List Char) : Nat :=
  cs.foldl (fun n c => base * n + (Text.hexValue? c).getD 0) 0

/-- Whether every character is a digit to a base. -/
def areDigits (base : Nat) (cs : List Char) : Bool :=
  cs.all fun c => match Text.hexValue? c with
    | some d => d < base
    | none => false

/-- The number of digits to a base, none of which is zero. -/
def partOfDigits (base : Nat) (cs : List Char) : Part :=
  if cs.isEmpty then .value 0
  else if !areDigits base cs then .notANumber
  else
    let n := ofDigitsBase base cs
    if n ≤ 0xFFFFFFFF then .value n else .tooLarge

/-- A part of an address: `0x` marks hexadecimal digits and a leading `0` octal ones. -/
def readPart : List Char → Part
  | [] => .notANumber
  | '0' :: 'x' :: r => partOfDigits 16 r
  | '0' :: 'X' :: r => partOfDigits 16 r
  | '0' :: c :: r => partOfDigits 8 (c :: r)
  | cs => partOfDigits 10 cs

/-- Whether the last part of a name that is not empty makes the name an address. -/
def endsInNumber (name : List Char) : Bool :=
  let parts := (Text.splitWhere (· == '.') name).reverse
  let last? := match parts with
    | [] :: p :: _ => some p
    | [] :: [] => none
    | p :: _ => some p
    | [] => none
  match last? with
  | none => false
  | some p => (!p.isEmpty && p.all Char.isDigit) || readPart p != .notANumber

/-- An address of up to four parts, the last of which fills what the others leave. -/
def readIpv4 (name : List Char) : Except UrlError Nat :=
  let parts := Text.splitWhere (· == '.') name
  -- A point at the end counts for nothing.
  let parts := if parts.getLast? = some [] then parts.dropLast else parts
  let numbers := parts.map readPart
  if parts.length > 4 then .error .badIpv4
  else
    match numbers.mapM (fun p => match p with
      | .value n => some n
      | _ => none) with
    | none => .error .badIpv4
    | some ns =>
      let front := ns.dropLast
      let last := ns.getLast?.getD 0
      -- The last number fills the bytes that are left over.
      if last ≥ 1 <<< (8 * (4 - front.length)) ∨ front.any (· > 255) then .error .badIpv4
      else .ok ((front.foldl (256 * · + ·) 0) <<< (8 * (4 - front.length)) + last)

/-! ## Addresses of 128 bits -/

/-- An address under way: the pieces so far, and how many of them stand before the double colon. -/
structure Ipv6State where
  pieces : List Nat := []
  gap : Option Nat := none

/-- The number of pieces, of which the double colon is one. -/
def Ipv6State.count (s : Ipv6State) : Nat := s.pieces.length + if s.gap.isSome then 1 else 0

/-- The four decimal numbers at the end of an address, as two pieces. No number has a leading zero. -/
def readIpv4Tail (cs : List Char) : Option (List Nat) :=
  let byte? (d : List Char) : Option Nat :=
    match d with
    | [] => none
    | ['0'] => some 0
    | '0' :: _ => none
    | d => if d.all Char.isDigit ∧ ofDigitsBase 10 d ≤ 255 then some (ofDigitsBase 10 d) else none
  match (Text.splitWhere (· == '.') cs).mapM byte? with
  | some [a, b, c, d] => some [a * 256 + b, c * 256 + d]
  | _ => none

/-- Read pieces up to the end. The first argument bounds their number. -/
def readPieces : Nat → Ipv6State → List Char → Option Ipv6State
  | _, s, [] => some s
  | 0, _, _ :: _ => none
  | more + 1, s, c :: r =>
    if s.count = 8 then none
    else if c = ':' then
      -- There is one double colon at most.
      if s.gap.isSome then none else readPieces more { s with gap := some s.pieces.length } r
    else
      let cs := c :: r
      let digits := (cs.take 4).takeWhile fun a => (Text.hexValue? a).isSome
      let rest := cs.drop digits.length
      let piece := ofDigitsBase 16 digits
      match rest with
      -- The digits before a point are decimal, and are read once more.
      | '.' :: _ =>
        if digits.isEmpty ∨ s.count > 6 then none
        else (readIpv4Tail cs).map fun ps => { s with pieces := s.pieces ++ ps }
      | ':' :: [] => none
      | ':' :: rest => readPieces more { s with pieces := s.pieces ++ [piece] } rest
      | [] => some { s with pieces := s.pieces ++ [piece] }
      | _ => none

/-- An address without its brackets. -/
def readIpv6 (cs : List Char) : Except UrlError (List Nat) :=
  let state := match cs with
    | ':' :: ':' :: r => readPieces 16 { gap := some 0 } r
    | ':' :: _ => none
    | cs => readPieces 16 {} cs
  match state with
  | some ⟨pieces, some gap⟩ =>
    .ok (pieces.take gap ++ List.replicate (8 - pieces.length) 0 ++ pieces.drop gap)
  | some ⟨pieces, none⟩ => if pieces.length = 8 then .ok pieces else .error .badIpv6
  | none => .error .badIpv6

/-- An address in brackets. -/
def readBracketed (cs : List Char) : Except UrlError Host :=
  match cs.drop 1 |>.reverse with
  | ']' :: r => (readIpv6 r.reverse).map .ipv6
  | _ => .error .badIpv6

/-- The characters of bytes in UTF-8, unless they are none. -/
def ofBytes? (bs : List UInt8) : Option (List Char) :=
  (String.fromUTF8? bs.toByteArray).map String.toList

/-- The host of a URL of the web: an address or a domain name. -/
def read (cs : List Char) : Except UrlError Host :=
  if cs.head? = some '[' then readBracketed cs
  else
    match (ofBytes? (Percent.decode cs)).bind Domain.toAscii? with
    | none => .error .badDomain
    | some [] => .error .emptyHost
    | some domain =>
      if endsInNumber domain then (readIpv4 domain).map .ipv4
      else .ok (.name (String.ofList domain))

/-- The characters that the host of any other URL may not hold. -/
def forbidden : List Char :=
  ['\x00', '\t', '\n', '\r', ' ', '#', '/', ':', '<', '>', '?', '@', '[', '\\', ']', '^', '|']

/-- The host of a URL of another scheme: an address in brackets, or any name. -/
def readOther (cs : List Char) : Except UrlError Host :=
  if cs.head? = some '[' then readBracketed cs
  else if cs.any forbidden.contains then .error .badHostCharacter
  else .ok (.name (String.ofList (Percent.encode [] cs)))

end Host

end LinkEmbed
