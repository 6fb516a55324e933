import LinkEmbed.Binary64.Reader
import LinkEmbed.Text.Ranges

/-!
# TOML

Documents of settings: tables of named values. How a table came to be decides whether it may grow later, so
tables keep that beside their entries.
-/

namespace LinkEmbed

/-- A value in a TOML document. Floating point numbers and dates stay as they are written. -/
inductive Toml where
  | text (value : String)
  | integer (value : Int)
  | float (written : String)
  | bool (value : Bool)
  | date (written : String)
  | array (items : List Toml)
  /-- A table within a line. `isDotted` tells that it came to be as part of a dotted name. -/
  | inlineTable (isDotted : Bool) (entries : List (String × Toml))
  /-- A table with a header. `isImplicit` tells that only tables inside it were named so far. -/
  | table (isImplicit isDotted : Bool) (entries : List (String × Toml))
  /-- Tables with the same header in double brackets. -/
  | tables (items : List Toml)

instance : Inhabited Toml := ⟨.bool false⟩

namespace Toml

/-- Put a value under a name that is new. -/
def addEntry (name : String) (v : Toml) (entries : List (String × Toml)) : Option (List (String × Toml)) :=
  if (entries.lookup name).isSome then none else some (entries ++ [(name, v)])

/-- Change the value of a name. -/
def putEntry (name : String) (v : Toml) : List (String × Toml) → List (String × Toml)
  | [] => [(name, v)]
  | (n, w) :: r => if n = name then (n, v) :: r else (n, w) :: putEntry name v r

/-- Arrays, tables and dotted names may lie inside each other less than this many times. -/
def depthLimit : Nat := 80

/-! ## Tables within a line -/

/-- Put a value under a dotted name into a table within a line. A table that is written out may not grow by
dotted names. -/
def addInline (entries : List (String × Toml)) (v : Toml) : List String → Option (List (String × Toml))
  | [] => none
  | [name] => addEntry name v entries
  | name :: path =>
    match entries.lookup name with
    | none => (addInline [] v path).map fun es => entries ++ [(name, .inlineTable true es)]
    | some (.inlineTable true es) =>
      (addInline es v path).map fun es => putEntry name (.inlineTable true es) entries
    | some _ => none

/-! ## Tables with headers -/

/-- Change the table at a path, creating the tables on the way. `dotted` tells that the path is part of a
dotted name, which may not lead into a table that has a header of its own. -/
def descend (dotted : Bool) (f : Toml → Option Toml) : List String → Toml → Option Toml
  | [], t => f t
  | name :: path, .table i d entries =>
    let inside (t : Toml) : Option Toml := descend dotted f path t
    let put (t : Toml) : Toml := .table i d (putEntry name t entries)
    match entries.lookup name with
    | none => (inside (.table true dotted [])).map put
    | some (.table j e es) =>
      -- A dotted name does not reach into a table with a heading of its own.
      if dotted && !j then none else (inside (.table j e es)).map put
    | some (.tables ts) =>
      match ts.reverse with
      | [] => none
      | last :: before => (inside last).map fun t => put (.tables (before.reverse ++ [t]))
    | some _ => none
  | _, _ => none

/-- Put a value under a dotted name into a table. -/
def addDotted (t : Toml) (path : List String) (v : Toml) : Option Toml :=
  match path.reverse with
  | [] => none
  | name :: before =>
    descend true (fun t =>
      match t with
      | .table i d entries =>
        if d = before.isEmpty then none else (addEntry name v entries).map (.table i d)
      | _ => none) before.reverse t

end Toml

/-- A document while it is read: the tables read so far, and the one that entries go into now. -/
structure TomlDraft where
  root : Toml := .table false false []
  current : Toml := .table false false []
  path : List String := []
  isItem : Bool := false

namespace TomlDraft

open Toml (descend putEntry)

/-- Put an entry into the current table. -/
def add (d : TomlDraft) (path : List String) (v : Toml) : Option TomlDraft :=
  (d.current.addDotted path v).map fun current => { d with current }

/-- Change the table that holds the last name of a path. -/
def atParent (root : Toml) (path : List String)
    (f : String → Bool → Bool → List (String × Toml) → Option (List (String × Toml))) : Option Toml :=
  match path.reverse with
  | [] => none
  | name :: before =>
    descend false (fun t =>
      match t with
      | .table i d entries => (f name i d entries).map (.table i d)
      | _ => none) before.reverse root

/-- Put the current table where it belongs. -/
def close (d : TomlDraft) : Option TomlDraft :=
  if d.path.isEmpty then some { d with root := d.current, current := .table true false [] }
  else
    let root := atParent d.root d.path fun name _ _ entries =>
      match d.isItem, entries.lookup name with
      | true, none => some (putEntry name (.tables [d.current]) entries)
      | true, some (.tables ts) => some (putEntry name (.tables (ts ++ [d.current])) entries)
      | false, none => some (putEntry name d.current entries)
      | false, some (.table true _ _) => some (putEntry name d.current entries)
      | _, _ => none
    root.map fun root => { d with root, path := [] }

/-- A header in brackets: the table may have been named on the way to others, but not before. -/
def openTable (d : TomlDraft) (path : List String) : Option TomlDraft := do
  let d ← d.close
  let (name, before) ← match path.reverse with
    | [] => none
    | name :: before => some (name, before.reverse)
  let found ← find before name d.root
  match found with
  | none => some { d with root := ← touch d.root path, current := .table false false [], path, isItem := false }
  -- A table that is there for the sake of what is in it can still be opened, once.
  | some (.table true false entries) =>
    let root ← atParent d.root path fun name _ _ es => some (es.filter fun e => e.1 != name)
    some { d with root, current := .table false false entries, path, isItem := false }
  | some _ => none
where
  /-- The value of a name in the table at a path. -/
  find (before : List String) (name : String) (root : Toml) : Option (Option Toml) :=
    match before, root with
    | [], .table _ _ entries => some (entries.lookup name)
    | k :: ks, .table _ _ entries =>
      match entries.lookup k with
      | none => some none
      | some (.tables ts) => match ts.getLast? with
        | some t => find ks name t
        | none => none
      | some (.table i d es) => find ks name (.table i d es)
      | some _ => none
    | _, _ => none
  /-- Create the tables on the way to a name. -/
  touch (root : Toml) (path : List String) : Option Toml := atParent root path fun _ _ _ es => some es

/-- A header in double brackets: one more of the tables of that name. -/
def openItem (d : TomlDraft) (path : List String) : Option TomlDraft := do
  let d ← d.close
  let root ← atParent d.root path fun name _ _ entries =>
    match entries.lookup name with
    | none => some entries
    | some (.tables _) => some entries
    | some _ => none
  some { d with root, current := .table false false [], path, isItem := true }

end TomlDraft

end LinkEmbed
