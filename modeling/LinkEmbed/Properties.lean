import LinkEmbed.Entries
import LinkEmbed.Scalar

/-!
# Properties

An ordered list of named scalars in which no name occurs twice. Setting a name that is there changes its
value in place, and setting a new one appends it, so the order of attributes stays as it was first given.
-/

namespace LinkEmbed

/-- Named scalars in order, no name twice. -/
structure Properties where
  entries : List (String × Scalar)
  distinct : (entryNames entries).Nodup
deriving DecidableEq

namespace Properties

/-- No properties. -/
def empty : Properties := ⟨[], List.nodup_nil⟩

instance : Inhabited Properties := ⟨empty⟩

/-- The value of a name. -/
def get? (p : Properties) (name : String) : Option Scalar :=
  p.entries.lookup name

/-- The value of a name, if it is a text. -/
def getText? (p : Properties) (name : String) : Option String :=
  (p.get? name).bind Scalar.text?

/-- Whether the name has a value, `null` included. -/
def contains (p : Properties) (name : String) : Bool :=
  p.entries.any (·.1 == name)

/-- Set the value of a name: in its place if it has one, at the end otherwise. -/
def set (p : Properties) (name : String) (value : Scalar) : Properties :=
  ⟨assignEntry name value p.entries, nodup_assignEntry p.distinct⟩

/-- Take a name out. -/
def erase (p : Properties) (name : String) : Properties :=
  ⟨eraseEntry name p.entries, p.distinct.sublist (entryNames_eraseEntry_sublist name p.entries)⟩

/-- Take a name out by its place, and tell the value that stood there. -/
def remove (p : Properties) (name : String) : Option Scalar × Properties :=
  match p.entries.findIdx? (·.1 == name) with
  | some i =>
    (p.entries[i]?.map Prod.snd,
      ⟨p.entries.eraseIdx i, p.distinct.sublist ((List.eraseIdx_sublist p.entries i).map Prod.fst)⟩)
  | none => (none, p)

/-- Set each of a list of entries, first to last. -/
def setAll (p : Properties) (es : List (String × Scalar)) : Properties :=
  es.foldl (fun q e => q.set e.1 e.2) p

/-- Set all of `q` over `p`, so the values of `q` win. -/
def merge (p q : Properties) : Properties :=
  p.setAll q.entries

/-- The properties got by setting each of a list of entries, first to last. -/
def ofList (es : List (String × Scalar)) : Properties :=
  empty.setAll es

/-- The number of names. -/
def size (p : Properties) : Nat := p.entries.length

/-- Whether no name has a value. -/
def isEmpty (p : Properties) : Bool := p.entries.isEmpty

/-- Same names in the same order, with equal values. -/
def beq (p q : Properties) : Bool :=
  p.entries.length == q.entries.length &&
    (p.entries.zip q.entries).all fun (a, b) => a.1 == b.1 && a.2.beq b.2

@[ext] theorem ext {p q : Properties} (h : p.entries = q.entries) : p = q := by
  cases p; cases q; cases h; rfl

@[simp] theorem entries_set (p : Properties) (name : String) (value : Scalar) :
    (p.set name value).entries = assignEntry name value p.entries := rfl

end LinkEmbed.Properties
