import LinkEmbed.EmbedError
import LinkEmbed.Entries

/-!
# Caches

What is known of pages, by the text of their URL. That a page has nothing to offer is known too, so it is
not asked for again. A failure is not remembered.
-/

namespace LinkEmbed

/-- What is known of a page: a value, or that there is none. -/
inductive CacheEntry (α : Type) where
  | found (value : α)
  | absent
deriving DecidableEq, Repr

namespace CacheEntry

variable {α : Type}

/-- The entry for a value or its absence. -/
def ofOption : Option α → CacheEntry α
  | some a => .found a
  | none => .absent

/-- The value, if there is one. -/
def toOption : CacheEntry α → Option α
  | .found a => some a
  | .absent => none

/-- Whether there is a value. -/
def isFound (e : CacheEntry α) : Bool := e.toOption.isSome

end CacheEntry

/-- Entries by the text of a URL, no text twice. -/
structure Cache (α : Type) where
  entries : List (String × CacheEntry α)
  distinct : (entryNames entries).Nodup

namespace Cache

variable {α : Type}

/-- Nothing is known. -/
def empty : Cache α := ⟨[], List.nodup_nil⟩

instance : Inhabited (Cache α) := ⟨empty⟩

/-- What is known of a page. -/
def get? (c : Cache α) (u : Url) : Option (CacheEntry α) := c.entries.lookup u.text

/-- Whether anything is known of a page. -/
def contains (c : Cache α) (u : Url) : Bool := (c.get? u).isSome

/-- The number of pages of which something is known. -/
def size (c : Cache α) : Nat := c.entries.length

/-- Whether nothing is known. -/
def isEmpty (c : Cache α) : Bool := c.entries.isEmpty

/-- Write down what is known of a page. -/
def insert (c : Cache α) (u : Url) (e : CacheEntry α) : Cache α :=
  ⟨assignEntry u.text e c.entries, nodup_assignEntry c.distinct⟩

/-- What is known of a page; if nothing is, what `fetch` answers, which is then known. The last part of
the result is the state that `fetch` leaves; it is only run when nothing is known. -/
def getOrFetch {σ : Type} (c : Cache α) (u : Url) (fetch : σ → Outcome (Option α) × σ) (s : σ) :
    Outcome (CacheEntry α) × Cache α × σ :=
  match c.get? u with
  | some e => (.value e, c, s)
  | none =>
    match fetch s with
    | (.value a, s) => (.value (.ofOption a), c.insert u (.ofOption a), s)
    | (.failed e, s) => (.failed e, c, s)
    | (.panicked m, s) => (.panicked m, c, s)

end Cache

end LinkEmbed
