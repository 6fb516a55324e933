import LinkEmbed.Json.Source

/-!
# Reading values out of JSON

Values from texts, and the pieces that typed readers are made of. A reader goes through a source in order
and stops at the first thing wrong, be it a fault of the text or a value that does not fit.
-/

namespace LinkEmbed.Json

/-- The error that a fault is for whoever wants the value. -/
def Fault.wanted (f : Fault) : Error := .malformed f.cause f.location

/-- The error that a fault is for whoever passes over the value. -/
def Fault.skipped (f : Fault) : Error := .malformed f.cause.whenSkipped f.location

/-- Fail if there is a fault. -/
def checkFault : Option Fault → Except Error Unit
  | none => .ok ()
  | some f => .error f.wanted

/-- Lists and objects may lie inside each other one less than this many times. -/
def depthLimit : Nat := 128

/-- The error for a list or object that lies too deep. -/
def tooDeepAt (start : Location) : Error := .malformed .tooDeep ⟨start.line, start.column + 1⟩

namespace Source

/-- The place where the value begins. -/
def start : Source → Location
  | .broken s _ => s
  | .scalar s _ _ => s
  | .tooLarge s _ _ => s
  | .text s _ _ _ => s
  | .list s _ _ _ => s
  | .map s _ _ _ => s

/-- The place behind the value. -/
def stop : Source → Location
  | .broken s _ => s
  | .scalar _ e _ => e
  | .tooLarge _ e _ => e
  | .text _ e _ _ => e
  | .list _ e _ _ => e
  | .map _ e _ _ => e

mutual

/-- The value that a source spells; `depth` counts how many lists and objects may still be opened. -/
def toJson (depth : Nat) : Source → Except Error Json
  | .broken _ f => .error f.wanted
  | .scalar _ _ v => .ok v
  | .tooLarge _ _ noticed => .error (.malformed .numberOutOfRange noticed)
  | .text _ _ v bad => do
    checkFault bad
    .ok (.text v)
  | .list s _ items f => do
    if depth ≤ 1 then throw (tooDeepAt s)
    -- What is inside fails before what is missing at the end.
    let vs ← toJsonItems (depth - 1) items
    checkFault f
    .ok (.array vs)
  | .map s _ fields f => do
    if depth ≤ 1 then throw (tooDeepAt s)
    let vs ← toJsonFields (depth - 1) fields
    checkFault f
    .ok (.ofFields vs)

/-- The values that the items of a list spell. -/
def toJsonItems (depth : Nat) : List Source → Except Error (List Json)
  | [] => .ok []
  | s :: r => do
    let v ← toJson depth s
    let vs ← toJsonItems depth r
    .ok (v :: vs)

/-- The names and values that the fields of an object spell, in order. -/
def toJsonFields (depth : Nat) : List (Name × Source) → Except Error (List (String × Json))
  | [] => .ok []
  | (n, s) :: r => do
    checkFault n.bad
    let v ← toJson depth s
    let vs ← toJsonFields depth r
    .ok ((n.value, v) :: vs)

end

mutual

/-- Pass over a value: only the bare grammar counts. -/
def skip : Source → Except Error Unit
  | .broken _ f => .error f.skipped
  | .list _ _ items f => do
    skipItems items
    match f with
    | none => .ok ()
    | some f => .error f.skipped
  | .map _ _ fields f => do
    skipFields fields
    match f with
    | none => .ok ()
    | some f => .error f.skipped
  | _ => .ok ()

/-- Pass over the items of a list. -/
def skipItems : List Source → Except Error Unit
  | [] => .ok ()
  | s :: r => do
    skip s
    skipItems r

/-- Pass over the fields of an object. -/
def skipFields : List (Name × Source) → Except Error Unit
  | [] => .ok ()
  | (_, s) :: r => do
    skip s
    skipFields r

end

mutual

/-- A value as a source without places. -/
def ofJson : Json → Source
  | .text v => .text {} {} v none
  | .array vs => .list {} {} (ofJsonItems vs) none
  | .object fs => .map {} {} (ofJsonFields fs) none
  | v => .scalar {} {} v

/-- The items of an array as sources. -/
def ofJsonItems : List Json → List Source
  | [] => []
  | v :: r => ofJson v :: ofJsonItems r

/-- The fields of an object as sources. -/
def ofJsonFields : List (String × Json) → List (Name × Source)
  | [] => []
  | (n, v) :: r => (⟨n, none, {}, {}⟩, ofJson v) :: ofJsonFields r

end

/-- The error for a value of another kind than wanted. A list or an object is noticed where it begins, any
other value when it has been read. -/
def wrongKind (wanted : String) : Source → Error
  | .broken _ f => f.wanted
  | .scalar _ e v => .unfit (mismatch v wanted) (some e)
  | .tooLarge _ _ noticed => .malformed .numberOutOfRange noticed
  | .text _ e v bad =>
    match bad with
    | some f => f.wanted
    | none => .unfit (mismatch (.text v) wanted) (some e)
  | .list s _ _ _ => .unfit (mismatch (.array []) wanted) (some s)
  | .map s _ _ _ => .unfit (mismatch (.object []) wanted) (some s)

/-- A text. -/
def getText : Source → Except Error String
  | .text _ _ v none => .ok v
  | s => .error (s.wrongKind "a string")

/-- A value that `null` leaves out. -/
def getOptional {α : Type} (get : Source → Except Error α) : Source → Except Error (Option α)
  | .scalar _ _ .null => .ok none
  | s => (get s).map some

end Source

/-- The error of a value that was not read from a text. -/
def Error.withoutLocation : Error → Error
  | .unfit cause _ => .unfit cause none
  | e => e

/-- The value of a text. -/
def parse (s : String) : Except Error Json := do
  let t := SourceText.read s
  let v ← t.value.toJson depthLimit
  checkFault t.trailing
  .ok v

end LinkEmbed.Json
