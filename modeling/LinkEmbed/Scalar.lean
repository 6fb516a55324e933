import LinkEmbed.Binary64.Shortest

/-!
# Scalars

The values a property of an element can have. `null` is a value of its own: merged over another value it
clears the attribute.
-/

namespace LinkEmbed

/-- The value of a property. -/
inductive Scalar where
  | text (value : String)
  | integer (value : Int)
  | float (value : Binary64)
  | bool (value : Bool)
  | null
deriving DecidableEq, Repr, Inhabited

namespace Scalar

/-- The text, if the value is one. -/
def text? : Scalar → Option String
  | .text s => some s
  | _ => none

/-- Whether the value is `null`. -/
def isNull : Scalar → Bool
  | .null => true
  | _ => false

/-- The value spelled out. -/
def display : Scalar → String
  | .text s => s
  | .integer n => toString n
  | .float x => x.text
  | .bool b => if b then "true" else "false"
  | .null => "null"

/-- The text of the attribute that carries the value. `false` and `null` leave the attribute out, and
`true` gives it an empty text. -/
def attributeText? : Scalar → Option String
  | .text s => some s
  | .integer n => some (toString n)
  | .float x => some x.text
  | .bool true => some ""
  | .bool false => none
  | .null => none

/-- Equality of values, where floating point numbers compare as numbers. -/
def beq : Scalar → Scalar → Bool
  | .text s, .text t => s == t
  | .integer m, .integer n => m == n
  | .float x, .float y => x.beq y
  | .bool a, .bool b => a == b
  | .null, .null => true
  | _, _ => false

/-- A text, or `null` for none. -/
def ofText? : Option String → Scalar
  | some s => .text s
  | none => .null

/-- A natural number, or `null` for none. -/
def ofNat? : Option Nat → Scalar
  | some n => .integer n
  | none => .null

theorem ofText?_eq_elim (s : Option String) : ofText? s = s.elim .null .text := by
  cases s <;> rfl

theorem ofNat?_eq_elim (n : Option Nat) : ofNat? n = n.elim .null fun n => .integer n := by
  cases n <;> rfl

theorem attributeText?_eq_none_iff {v : Scalar} : v.attributeText? = none ↔ v = .null ∨ v = .bool false := by
  cases v with
  | bool b => cases b <;> simp [attributeText?]
  | _ => simp [attributeText?]

end LinkEmbed.Scalar
