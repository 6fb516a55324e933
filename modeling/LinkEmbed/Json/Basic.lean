import LinkEmbed.Binary64.Shortest
import LinkEmbed.Text.Literal

/-!
# JSON values

A value of JSON, with whole numbers apart from floating point numbers. The fields of an object stand in the
order of their names, and no name occurs twice.
-/

namespace LinkEmbed

/-- A JSON value. -/
inductive Json where
  | null
  | bool (value : Bool)
  | integer (value : Int)
  | float (value : Binary64)
  | text (value : String)
  | array (items : List Json)
  | object (fields : List (String × Json))

instance : Inhabited Json := ⟨.null⟩

namespace Json

/-- Put a field in its place in a list that is in the order of names; it replaces a field of its name. -/
def insertField {α : Type u} (name : String) (value : α) : List (String × α) → List (String × α)
  | [] => [(name, value)]
  | (n, v) :: r =>
    if name = n then (name, value) :: r
    else if name < n then (name, value) :: (n, v) :: r
    else (n, v) :: insertField name value r

/-- The object with the fields given; of several fields of one name the last stays. -/
def ofFields (fields : List (String × Json)) : Json :=
  .object (fields.foldl (fun acc f => insertField f.1 f.2 acc) [])

/-- The value of a field of an object. -/
def field? (name : String) : Json → Option Json
  | .object fields => fields.lookup name
  | _ => none

/-- A text, or `null` for none. -/
def ofText? : Option String → Json
  | some s => .text s
  | none => .null

/-- A natural number, or `null` for none. -/
def ofNat? : Option Nat → Json
  | some n => .integer n
  | none => .null

/-- A floating point number with a point, and with an exponent outside `10^-5` up to `10^16`. -/
def floatText : Binary64 → String
  | .finite s m q =>
    if m = 0 then Binary64.signed s ['0', '.', '0']
    else
      let d := Binary64.shortestDigits m q
      if -4 ≤ d.point ∧ d.point ≤ 16 then (Binary64.finite s m q).textWithPoint
      else Binary64.signed s d.scientific
  | x => x.text

/-- The word for a value in a message that says what was found. -/
def describe : Json → String
  | .null => "null"
  | .bool b => if b then "boolean `true`" else "boolean `false`"
  | .integer n => s!"integer `{n}`"
  | .float x => "floating point `" ++ floatText x ++ "`"
  | .text s => "string " ++ Text.literal s
  | .array _ => "sequence"
  | .object _ => "map"

end Json

end LinkEmbed
