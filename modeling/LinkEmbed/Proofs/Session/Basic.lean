import LinkEmbed.Embedder

/-!
# Sessions

Strategies are put to work on documents one after another, with one memory for all of them. The order in
which the strategies are tried, the order in which links are dealt with and the receiver of diagnostics may
differ from one document to the next.
-/

namespace LinkEmbed

/-- A document to be embedded with some of `n` strategies, the order in which they are tried, the order in
which its links are dealt with, and who takes diagnostics in. -/
structure Job (n : Nat) (ρ : Type) where
  order : List (Fin n)
  document : Document
  links : List Path
  complete : links.Perm document.barePaths
  sink : Sink ρ
  receiver : ρ

variable {ρ : Type} {strategies : List Strategy}

namespace Job

/-- The embedder that does the work. -/
def embedder (job : Job strategies.length ρ) : Embedder := ⟨strategies, job.order⟩

/-- Do the work with what is remembered. -/
def run (job : Job strategies.length ρ) (m : Memory) : Outgoing Memory ρ :=
  job.document.resolveWith job.embedder.transformers job.sink job.links m job.receiver

/-- What comes of the document. -/
def result (job : Job strategies.length ρ) (m : Memory) : Document × ρ :=
  ((job.run m).document, (job.run m).receiver)

/-- What comes of the document when it is the first and only one, with its links dealt with first to last. -/
def alone (job : Job strategies.length ρ) : Document × ρ :=
  let outgoing := job.embedder.run job.sink job.document {} job.receiver
  (outgoing.document, outgoing.receiver)

end Job

/-- What can be done in a session: embed a document, or forget all that one strategy knows. -/
inductive Action (n : Nat) (ρ : Type) where
  | embed (job : Job n ρ)
  | clear (i : Fin n)

/-- The work of an action, if it is any. -/
def Action.job? {n : Nat} : Action n ρ → Option (Job n ρ)
  | .embed job => some job
  | .clear _ => none

/-- What is remembered after an action. -/
def Action.memory : Action strategies.length ρ → Memory → Memory
  | .embed job, m => (job.run m).memory
  | .clear i, m => (strategies.get i).clear i m

/-- What is remembered after a session that began with empty caches. -/
def remembered (actions : List (Action strategies.length ρ)) : Memory :=
  actions.foldl (fun m a => a.memory m) {}

/-- What comes of the documents of a session. -/
def perform : List (Action strategies.length ρ) → Memory → List (Document × ρ)
  | [], _ => []
  | a :: rest, m => (a.job?.map fun job => job.result m).toList ++ perform rest (a.memory m)

end LinkEmbed
