import LinkEmbed.Toml.Scalar

/-!
# TOML documents

Reading values with values inside, and whole documents line by line.
-/

namespace LinkEmbed.Toml

/-- Skip a comment up to the end of its line; none if something in it may not stand there. -/
def skipComment (cs : List Char) : Option (List Char) :=
  match cs with
  | '#' :: r => some (r.dropWhile isPlain)
  | cs => some cs

/-- Skip blanks, line ends and comments. The first argument bounds their number. -/
def skipLines : Nat → List Char → List Char
  | 0, cs => cs
  | fuel + 1, cs =>
    match cs with
    | '#' :: r => skipLines fuel (r.dropWhile isPlain)
    | c :: r =>
      if isBlank c then skipLines fuel r
      else
        match newline? cs with
        | some r => skipLines fuel r
        | none => cs
    | [] => []

mutual

/-- A value. `depth` counts how many arrays and tables may still be opened; the first argument bounds the
number of values and names. -/
def readValue : Nat → Nat → Reader Toml
  | 0, _, _ => none
  | fuel + 1, depth, cs =>
    match cs with
    | '[' :: r =>
      if depth ≤ 1 then none
      else (readItems fuel (depth - 1) r).map fun (vs, r) => (.array vs, r)
    | '{' :: r =>
      if depth ≤ 1 then none
      else
        match skipBlank r with
        | '}' :: r => some (.inlineTable false [], r)
        | r => (readEntries fuel (depth - 1) [] r).map fun (es, r) => (.inlineTable false es, r)
    | cs => readScalar cs

/-- The items of an array up to its closing bracket. -/
def readItems : Nat → Nat → Reader (List Toml)
  | 0, _, _ => none
  | fuel + 1, depth, cs =>
    match skipLines cs.length cs with
    | ']' :: r => some ([], r)
    | cs => do
      let (v, cs) ← readValue fuel depth cs
      match skipLines cs.length cs with
      | ']' :: r => some ([v], r)
      | ',' :: r =>
        let (vs, r) ← readItems fuel depth r
        some (v :: vs, r)
      | _ => none

/-- The entries of a table within a line up to its closing brace. -/
def readEntries : Nat → Nat → List (String × Toml) → Reader (List (String × Toml))
  | 0, _, _, _ => none
  | fuel + 1, depth, entries, cs => do
    let (path, cs) ← readName cs
    let cs ← expect '=' cs
    let (v, cs) ← readValue fuel depth (skipBlank cs)
    let entries ← addInline entries v path
    match skipBlank cs with
    | '}' :: r => some (entries, r)
    | ',' :: r => readEntries fuel depth entries r
    | _ => none

end

/-- The end of a line behind a header or an entry: blanks and a comment may stand before it. -/
def endLine (cs : List Char) : Option (List Char) := do
  let cs ← skipComment (skipBlank cs)
  match cs with
  | [] => some []
  | cs => newline? cs

/-- A header or an entry, up to the end of its line. -/
def readLine (d : TomlDraft) (cs : List Char) : Option (TomlDraft × List Char) :=
  match cs with
  | '[' :: '[' :: r => do
    let (path, r) ← readName r
    let r ← expect ']' r
    let r ← expect ']' r
    let r ← endLine r
    some (← d.openItem path, r)
  | '[' :: r => do
    let (path, r) ← readName r
    let r ← expect ']' r
    let r ← endLine r
    some (← d.openTable path, r)
  -- No heading: a name and its value.
  | cs => do
    let (path, cs) ← readName cs
    let cs ← expect '=' cs
    let (v, cs) ← readValue (2 * cs.length + 2) depthLimit (skipBlank cs)
    let cs ← endLine cs
    some (← d.add path v, cs)

/-- The lines of a document. The first argument bounds their number. -/
def readLines : Nat → TomlDraft → List Char → Option TomlDraft
  | 0, d, _ => some d
  | fuel + 1, d, cs =>
    match skipBlank cs with
    | [] => some d
    | '#' :: r => (endLine ('#' :: r)).bind (readLines fuel d)
    | cs =>
      match newline? cs with
      | some r => readLines fuel d r
      | none => (readLine d cs).bind fun (d, r) => readLines fuel d r

/-- The table of a document. A mark of byte order at the front does not count. -/
def parse? (text : String) : Option Toml :=
  let cs := match text.toList with
    | '\uFEFF' :: cs => cs
    | cs => cs
  ((readLines (cs.length + 1) {} cs).bind TomlDraft.close).map TomlDraft.root

end LinkEmbed.Toml
