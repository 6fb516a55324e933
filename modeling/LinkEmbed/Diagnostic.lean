import LinkEmbed.EmbedError
import LinkEmbed.Position

/-!
# Diagnostics

Messages about links that could not be embedded, and files that collect them.

* `Diagnostic.Tells` — what a message says: who failed on which URL, where the link stands, and the error.
* `Diagnostic.tells_iff` — the message for a failure is the one message that tells it.
-/

namespace LinkEmbed

/-- A message about one link. -/
@[ext]
structure Diagnostic where
  message : String
  /-- Where the link stands, when that is known. -/
  position : Option Position
  origin : String
  /-- The name of the transformer that failed. -/
  transformer : String
  /-- The URL as the document writes it. -/
  url : String
deriving DecidableEq, Repr

/-- Where all diagnostics come from. -/
def Diagnostic.defaultOrigin : String := "tola-embed"

/-- The line that a link starts on, for a message. -/
def Diagnostic.lineText (position : Option Position) : String :=
  position.elim "unknown" fun p => toString p.startLine

/-- The message for a transformer that failed on a link. What is not known of the place is `unknown`. -/
def Diagnostic.embedFailure (transformer url : String) (path : Option String) (position : Option Position)
    (error : EmbedError) : Diagnostic :=
  { message :=
      "[transformer:" ++ transformer ++ "] Failed to embed " ++ url ++ " in " ++ path.getD "unknown" ++
        " at line " ++ lineText position ++ ".; " ++ error.report
    position
    origin := defaultOrigin
    transformer
    url }

/-- What a message says about a link on which a transformer failed. The wording says it all in one line, with the
error as a JSON object at its end. -/
structure Diagnostic.Tells (d : Diagnostic) (transformer url : String) (path : Option String)
    (position : Option Position) (error : EmbedError) : Prop where
  message : d.message =
    "[transformer:" ++ transformer ++ "] Failed to embed " ++ url ++ " in " ++ path.getD "unknown" ++
      " at line " ++ (position.elim "unknown" fun p => toString p.start.line) ++ ".; " ++
      ("\x7b\"kind\":\"" ++ error.kind ++ "\",\"message\":" ++ String.ofList (Json.quote error.message) ++ "\x7d")
  position : d.position = position
  origin : d.origin = "tola-embed"
  transformer : d.transformer = transformer
  url : d.url = url

/-- The message for a transformer that failed on a link tells so. -/
theorem Diagnostic.tells_embedFailure (transformer url : String) (path : Option String)
    (position : Option Position) (error : EmbedError) :
    (embedFailure transformer url path position error).Tells transformer url path position error where
  message := by
    have hline : lineText position = position.elim "unknown" fun p => toString p.start.line := rfl
    rw [← error.report_eq, ← hline]
    rfl
  position := rfl
  origin := rfl
  transformer := rfl
  url := rfl

/-- Nothing is left open: a message that tells of a failure is the message for it. -/
theorem Diagnostic.tells_iff {d : Diagnostic} {transformer url : String} {path : Option String}
    {position : Option Position} {error : EmbedError} :
    d.Tells transformer url path position error ↔ d = embedFailure transformer url path position error := by
  constructor
  · intro h
    have hmade := tells_embedFailure transformer url path position error
    exact Diagnostic.ext (h.message.trans hmade.message.symm) (h.position.trans hmade.position.symm)
      (h.origin.trans hmade.origin.symm) (h.transformer.trans hmade.transformer.symm) (h.url.trans hmade.url.symm)
  · rintro rfl
    exact tells_embedFailure transformer url path position error

/-- A file with the messages about its links, first to last. -/
structure SourceFile where
  path : Option String := none
  messages : List Diagnostic := []

namespace SourceFile

/-- Add messages. -/
def report (f : SourceFile) (messages : List Diagnostic) : SourceFile :=
  { f with messages := f.messages ++ messages }

/-- Whether there are no messages. -/
def isClean (f : SourceFile) : Bool := f.messages.isEmpty

/-- The messages of one transformer. -/
def byTransformer (f : SourceFile) (name : String) : List Diagnostic :=
  f.messages.filter (·.transformer == name)

end SourceFile

/-- A receiver of messages: the path of its document, if it has one, and how it takes a message in. -/
structure Sink (ρ : Type) where
  path? : ρ → Option String
  receive : ρ → Diagnostic → ρ

/-- A list takes messages in at its end, and has no path. -/
def Sink.list : Sink (List Diagnostic) :=
  { path? := fun _ => none, receive := fun l message => l ++ [message] }

/-- A file takes messages in under its own path. -/
def Sink.file : Sink SourceFile := { path? := SourceFile.path, receive := fun f message => f.report [message] }

end LinkEmbed
