import LinkEmbed.Diagnostic
import LinkEmbed.Document.Traversal
import LinkEmbed.Transformer.Basic
import LinkEmbed.Url.Parser

/-!
# Embedding the links of a document

Each link that may be embedded goes to the transformers in their order. The first that takes it and renders
it decides; one that fails leaves a diagnostic, and the next has its turn. What a link looks like never
depends on what was done for another, unless transformers remember it.
-/

namespace LinkEmbed

variable {σ : Type}

/-- What one link became: the link, and the diagnostics on the way. -/
structure LinkReport where
  anchor : Anchor
  diagnostics : List Diagnostic

/-- The diagnostic for a transformer that failed on a link. -/
def failureReport (t : Transformer σ) (file : Option String) (a : Anchor) (e : EmbedError) : Diagnostic :=
  .embedFailure t.name a.url file a.position e

/-- Offer a link to transformers in order. -/
def offer (file : Option String) (a : Anchor) (u : Url) : List (Transformer σ) → σ → LinkReport × σ
  | [], s => (⟨a, []⟩, s)
  | t :: ts, s =>
    match t.accepts u s with
    | (answer, s) =>
      match answer.guarded with
      | .ok false => offer file a u ts s
      | .error e =>
        -- A failure is reported, and the next transformer is asked.
        let (r, s) := offer file a u ts s
        ({ r with diagnostics := failureReport t file a e :: r.diagnostics }, s)
      | .ok true =>
        match t.render u s with
        | .ok r => (⟨a.commit r.tag r.properties r.children, []⟩, s)
        | .error e =>
          let (r, s) := offer file a u ts s
          ({ r with diagnostics := failureReport t file a e :: r.diagnostics }, s)

/-- Deal with one link. What is no absolute URL is left alone. -/
def resolveAnchor (ts : List (Transformer σ)) (file : Option String) (a : Anchor) (s : σ) : LinkReport × σ :=
  match Url.parse a.url with
  | .ok u => offer file a u ts s
  | .error _ => (⟨a, []⟩, s)

/-- A document on its way: what it looks like, the diagnostics of the links dealt with, and what the
transformers remember. -/
structure Resolution (σ : Type) where
  document : Document
  reports : List (Path × List Diagnostic)
  memory : σ

/-- Deal with the link at a path. -/
def Resolution.step (ts : List (Transformer σ)) (file : Option String) (r : Resolution σ) (p : Path) :
    Resolution σ :=
  match r.document.link? p with
  | none => r
  | some link =>
    let (report, memory) := resolveAnchor ts file link.toAnchor r.memory
    { document := r.document.changeAnchor p fun _ => report.anchor
      reports := r.reports ++ [(p, report.diagnostics)]
      memory }

/-- Deal with the links at some paths, in the order given. -/
def Document.resolveInOrder (ts : List (Transformer σ)) (file : Option String) (d : Document)
    (order : List Path) (s : σ) : Resolution σ :=
  order.foldl (Resolution.step ts file) ⟨d, [], s⟩

/-- The diagnostics of some links, in the order of the links. -/
def Resolution.diagnostics (r : Resolution σ) (paths : List Path) : List Diagnostic :=
  paths.flatMap fun p => (r.reports.lookup p).getD []

/-- A document that was dealt with, what the transformers remember, and whoever took the diagnostics in. -/
structure Outgoing (σ ρ : Type) where
  document : Document
  memory : σ
  receiver : ρ

/-- Embed the links of a document, dealt with in the order given. Whatever that order is, the receiver gets
the diagnostics in the order of the links, and only once all links are dealt with. -/
def Document.resolveWith {ρ : Type} (ts : List (Transformer σ)) (sink : Sink ρ) (d : Document)
    (order : List Path) (s : σ) (r : ρ) : Outgoing σ ρ :=
  if ts.isEmpty then ⟨d, s, r⟩
  else
    let result := d.resolveInOrder ts (sink.path? r) order s
    ⟨result.document, result.memory, (result.diagnostics d.barePaths).foldl sink.receive r⟩

/-- Embed the links of a document, first to last. -/
def Document.resolve {ρ : Type} (ts : List (Transformer σ)) (sink : Sink ρ) (d : Document) (s : σ) (r : ρ) :
    Outgoing σ ρ :=
  d.resolveWith ts sink d.barePaths s r

end LinkEmbed
