import LinkEmbed.Cache
import LinkEmbed.Metadata.Basic

/-!
# What transformers remember

Every transformer has a cache of its own, and all questions that were asked are written down. Whoever is
asked may answer differently each time, so an answer is a function of the number of questions before.
-/

namespace LinkEmbed

/-- Whoever knows pages: given the number of questions before, the answer for a URL. -/
abbrev Fetcher (α : Type) := Nat → Url → Outcome (Option α)

/-- A fetcher whose answers depend on the URL alone. -/
def Fetcher.ofUrl {α : Type} (f : Url → Outcome (Option α)) : Fetcher α := fun _ u => f u

/-- A question: which transformer asked, which of its providers if any, and about which page. -/
structure Question where
  transformer : Nat
  provider : Option Nat
  url : Url
deriving DecidableEq, Repr

/-- What transformers remember, by their number. The latest question comes first. -/
structure Memory where
  pages : Nat → Cache Metadata := fun _ => .empty
  documents : Nat → Cache OEmbed := fun _ => .empty
  asked : List Question := []

instance : Inhabited Memory := ⟨{}⟩

namespace Memory

/-- Give one number another value. -/
def update {α : Type} (f : Nat → α) (i : Nat) (a : α) : Nat → α := fun j => if j = i then a else f j

/-- The number of questions so far. -/
def time (m : Memory) : Nat := m.asked.length

/-- Ask a fetcher. Every question that is asked is written down. -/
def ask {α : Type} (fetcher : Fetcher α) (q : Question) (m : Memory) : Outcome (Option α) × Memory :=
  (fetcher m.time q.url, { m with asked := q :: m.asked })

/-- Change what a transformer knows of pages. -/
def setPages (m : Memory) (i : Nat) (c : Cache Metadata) : Memory := { m with pages := update m.pages i c }

/-- Change what a transformer knows of oEmbed documents. -/
def setDocuments (m : Memory) (i : Nat) (c : Cache OEmbed) : Memory :=
  { m with documents := update m.documents i c }

/-- What is known of a page; if nothing is, the fetcher is asked. -/
def page (m : Memory) (i : Nat) (fetcher : Fetcher Metadata) (u : Url) :
    Outcome (CacheEntry Metadata) × Memory :=
  let (answer, c, m) := (m.pages i).getOrFetch u (ask fetcher ⟨i, none, u⟩) m
  (answer, m.setPages i c)

end Memory

end LinkEmbed
