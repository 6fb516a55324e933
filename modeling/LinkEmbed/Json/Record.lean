import LinkEmbed.Entries
import LinkEmbed.Json.Decode

/-!
# Reading records

Records from JSON: objects whose fields may stand in any order and be left out, or lists of the field values
in order. Fields that are not known are passed over.
-/

namespace LinkEmbed.Json

/-- A field of a record: the names it goes by, of which messages use the first, and how its value gets into
the record. -/
structure RecordField (σ : Type) where
  name : String
  otherName : Option String := none
  read : σ → Source → Except Error σ

/-- Whether a field goes by a name. -/
def RecordField.hasName {σ : Type} (f : RecordField σ) (name : String) : Bool :=
  f.name == name || f.otherName == some name

/-- A field that holds a value. -/
def RecordField.ofGet {σ α : Type} (name : String) (get : Source → Except Error α) (put : σ → α → σ) :
    RecordField σ :=
  { name, read := fun r s => (get s).map (put r) }

/-- Whether a record is read from a text, where places are known, or from a value. -/
inductive Origin where
  | text
  | value
deriving DecidableEq

/-- What is wrong with a list that has more items than the record has fields. -/
def tooLong (origin : Origin) (length : Nat) (item : Source) : Error :=
  match origin with
  | .text => .malformed .trailingCharacters ⟨item.start.line, item.start.column + 1⟩
  | .value => .unfit (.wrongLength length "fewer elements in array") none

/-- The fields of a record by name. `seen` holds the fields that were there already. -/
def readNamed {σ : Type} (fields : List (RecordField σ)) (seen : List String) (record : σ) :
    List (Name × Source) → Except Error σ
  | [] => .ok record
  | (n, s) :: r => do
    checkFault n.bad
    match fields.find? (·.hasName n.value) with
    | none =>
      -- A name that does not count has its value checked for faults all the same.
      s.skip
      readNamed fields seen record r
    | some f =>
      if seen.contains f.name then .error (.unfit (.duplicateField f.name) (some n.resume))
      else do
        let record ← f.read record s
        readNamed fields (f.name :: seen) record r

/-- The fields of a record in order, with the items that are too many. -/
def readInOrder {σ : Type} (record : σ) :
    List (RecordField σ) → List Source → Except Error (σ × Option Source)
  | _, [] => .ok (record, none)
  | [], s :: _ => .ok (record, some s)
  | f :: fs, s :: r => do
    let record ← f.read record s
    readInOrder record fs r

/-- Read a record. `wanted` says what it is called in messages. -/
def readRecord {σ : Type} (origin : Origin) (wanted : String) (fields : List (RecordField σ)) (record : σ) :
    Source → Except Error σ
  | .map _ _ given fault => do
    let record ← readNamed fields [] record given
    checkFault fault
    .ok record
  -- A list gives the fields in order.
  | .list _ _ items fault => do
    let (record, extra) ← readInOrder record fields items
    match extra, fault with
    | some item, _ => .error (tooLong origin items.length item)
    | none, none => .ok record
    | none, some f =>
      if items.length < fields.length then .error f.wanted
      else .error (.malformed f.cause.whenClosing f.location)
  | s => .error (s.wrongKind wanted)

/-- Read a list. -/
def readList {α : Type} (read : Source → Except Error α) : Source → Except Error (List α)
  | .list _ _ items fault => do
    let l ← items.mapM read
    checkFault fault
    .ok l
  | s => .error (s.wrongKind "a sequence")

/-- A truth value. -/
def Source.getBool : Source → Except Error Bool
  | .scalar _ _ (.bool b) => .ok b
  | s => .error (s.wrongKind "a boolean")

/-- One of a list of names, given as a text, or as an object whose one field has that name and no value. -/
def Source.getName {α : Type} (known : List (String × α)) (s : Source) : Except Error α := do
  let find (name : String) : Except Error α :=
    match known.lookup name with
    | some a => .ok a
    | none => .error (.unfit (.unknownVariant name (entryNames known)) none)
  match s with
  | .text _ _ v none => find v
  -- A map with the name as its only field, and `null` as its value, will do.
  | .map _ _ [(n, v)] none =>
    let a ← find n.value
    match v with
    | .scalar _ _ .null => .ok a
    | v => .error (v.wrongKind "unit")
  | .map .. => .error (.unfit (.wrongValue "map" "map with a single key") none)
  | s => .error (s.wrongKind "string or map")

end LinkEmbed.Json
