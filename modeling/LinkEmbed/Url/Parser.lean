import LinkEmbed.Url.Host

/-!
# Reading URLs

Absolute URLs, and references resolved against a URL, as browsers read them: blanks around a text and line
ends inside it do not count, a backslash is a slash in the schemes of the web, and dots in paths are
resolved.
-/

namespace LinkEmbed.Url

/-- The schemes of the web with their own ports. -/
def specialPorts : List (String × Option Nat) :=
  [("http", some 80), ("https", some 443), ("ws", some 80), ("wss", some 443), ("ftp", some 21),
    ("file", none)]

/-- Whether a scheme is one of the web. -/
def isSpecial (scheme : String) : Bool := (specialPorts.lookup scheme).isSome

/-- The port that a scheme has of its own. -/
def ownPort? (scheme : String) : Option Nat := (specialPorts.lookup scheme).join

/-- Drop controls and blanks at both ends, and tabs and line ends everywhere. -/
def clean (s : String) : List Char :=
  let cs := s.toList.dropWhile (fun c => c.toNat ≤ 0x20)
  let cs := (cs.reverse.dropWhile fun c => c.toNat ≤ 0x20).reverse
  cs.filter fun c => c != '\t' && c != '\n' && c != '\r'

/-- A character of a scheme behind its first letter. -/
def isSchemeChar (c : Char) : Bool := c.isAlphanum || c == '+' || c == '-' || c == '.'

/-- Split off a scheme and its colon. -/
def splitScheme? (cs : List Char) : Option (String × List Char) :=
  match cs with
  | c :: _ =>
    if c.isAlpha then
      match cs.dropWhile isSchemeChar with
      | ':' :: r => some (String.ofList ((cs.takeWhile isSchemeChar).map Char.toLower), r)
      | _ => none
    else none
  | [] => none

/-- A character that separates segments of a path. -/
def isSlash (special : Bool) (c : Char) : Bool := c == '/' || (special && c == '\\')

/-- A character at which a path ends. -/
def endsPath (c : Char) : Bool := c == '?' || c == '#'

/-! ## Paths -/

/-- A letter and a colon or a bar. -/
def isDrive (s : List Char) : Bool :=
  match s with
  | [c, d] => c.isAlpha && (d == ':' || d == '|')
  | _ => false

/-- A letter and a colon. -/
def isNormalDrive (s : String) : Bool :=
  match s.toList with
  | [c, ':'] => c.isAlpha
  | _ => false

/-- A reference that begins with a drive. -/
def startsWithDrive (cs : List Char) : Bool :=
  isDrive (cs.take 2) &&
    match cs.drop 2 with
    | [] => true
    | c :: _ => c == '/' || c == '\\' || endsPath c

/-- A dot, plain or encoded. -/
def dotSpellings : List String := [".", "%2e"]

/-- Two dots, plain or encoded. -/
def doubleDotSpellings : List String := ["..", ".%2e", "%2e.", "%2e%2e"]

/-- The path without its last segment; a drive stays. -/
def shorten (file : Bool) (path : List String) : List String :=
  match path with
  | [s] => if file && isNormalDrive s then [s] else []
  | path => path.dropLast

/-- Append one segment, of which a slash follows or not. -/
def addSegment (file : Bool) (path : List String) (segment : List Char) (slash : Bool) : List String :=
  let text := String.ofList segment
  let lower := String.ofList (segment.map Char.toLower)
  if doubleDotSpellings.contains lower then
    let path := shorten file path
    -- At the end of a path, dots leave an empty segment behind.
    if slash then path else path ++ [""]
  else if dotSpellings.contains lower then (if slash then path else path ++ [""])
  -- The bar of a drive is written as a colon.
  else if file && path.isEmpty && isDrive segment then
    path ++ [String.ofList (segment.take 1 ++ [':'])]
  else path ++ [text]

/-- Append the segments of a text up to its query or fragment. The first argument bounds their number. -/
def addSegments (special file : Bool) : Nat → List String → List Char → List String × List Char
  | 0, path, cs => (path, cs)
  | more + 1, path, cs =>
    let stop (c : Char) := isSlash special c || endsPath c
    let segment := Percent.encode Percent.pathSet (cs.takeWhile fun c => !stop c)
    match cs.dropWhile fun c => !stop c with
    | [] => (addSegment file path segment false, [])
    | c :: r =>
      if isSlash special c then addSegments special file more (addSegment file path segment true) r
      else (addSegment file path segment false, c :: r)

/-- The path of a file begins with one slash. -/
def trimFilePath (path : List String) : List String :=
  match path.dropWhile String.isEmpty with
  | [] => [""]
  | p => p

/-- Append the segments of a text to a path. -/
def readPath (scheme : String) (path : List String) (cs : List Char) : List String × List Char :=
  let file := scheme == "file"
  let (path, rest) := addSegments (isSpecial scheme) file (cs.length + 1) path cs
  (if file then trimFilePath path else path, rest)

/-- The path behind a host. -/
def readPathStart (scheme : String) (cs : List Char) : List String × List Char :=
  match cs with
  | [] => if isSpecial scheme then readPath scheme [] [] else ([], [])
  | c :: r =>
    if isSlash (isSpecial scheme) c then readPath scheme [] r
    else if !isSpecial scheme && endsPath c then ([], cs)
    else readPath scheme [] cs

/-! ## Query and fragment -/

/-- Set the query and fragment that a text consists of. -/
def withTail (u : Url) (cs : List Char) : Url :=
  let set := if isSpecial u.scheme then Percent.specialQuerySet else Percent.querySet
  let fragment (r : List Char) : String := String.ofList (Percent.encode Percent.fragmentSet r)
  match cs with
  | '?' :: r =>
    let query := some (String.ofList (Percent.encode set (r.takeWhile (· != '#'))))
    match r.dropWhile (· != '#') with
    | [] => { u with query, fragment := none }
    | _ :: f => { u with query, fragment := some (fragment f) }
  | '#' :: f => { u with fragment := some (fragment f) }
  | _ => u

/-! ## Authority -/

/-- Name and password, and what is behind the last at sign before the path. -/
def splitCredentials (special : Bool) (cs : List Char) : Option (List Char) × List Char :=
  let authority := cs.takeWhile fun c => !(isSlash special c || endsPath c)
  -- Only the last at sign counts; all before it belong to the name or the password.
  match authority.reverse.dropWhile (· != '@') with
  | [] => (none, cs)
  | _ :: r => (some r.reverse, cs.drop (r.length + 1))

/-- The end of a host: a colon outside brackets, or the end of the authority. -/
def splitHost (special : Bool) : Bool → List Char → List Char × List Char
  | _, [] => ([], [])
  | inside, c :: r =>
    if (c == ':' && !inside) || isSlash special c || endsPath c then ([], c :: r)
    else
      let inside := if c = '[' then true else if c = ']' then false else inside
      let (host, rest) := splitHost special inside r
      (c :: host, rest)

/-- A port behind its colon. Any slash ends it. -/
def readPort (scheme : String) (cs : List Char) : Except UrlError (Option Nat × List Char) :=
  let digits := cs.takeWhile Char.isDigit
  let rest := cs.dropWhile Char.isDigit
  let port := digits.foldl (fun n c => 10 * n + (c.toNat - '0'.toNat)) 0
  let ends := match rest with
    | [] => true
    | c :: _ => c == '/' || c == '\\' || endsPath c
  if port > 65535 || !ends then .error .badPort
  else if digits.isEmpty || ownPort? scheme = some port then .ok (none, rest)
  else .ok (some port, rest)

/-- A port if a colon comes first. -/
def readPortIfAny (scheme : String) : List Char → Except UrlError (Option Nat × List Char)
  | ':' :: r => readPort scheme r
  | r => .ok (none, r)

/-- The host of a URL of a scheme. -/
def readHost (scheme : String) (cs : List Char) : Except UrlError Host :=
  if isSpecial scheme then Host.read cs else Host.readOther cs

/-- The URL that a name, a password, a host, a port and everything behind them make. -/
def authorityUrl (scheme : String) (user : List Char × List Char) (host : Host) (port : Option Nat)
    (cs : List Char) : Url :=
  let encodeUser (cs : List Char) : String := String.ofList (Percent.encode Percent.userSet cs)
  let (path, rest) := readPathStart scheme cs
  withTail
    { scheme, username := encodeUser user.1, password := encodeUser user.2, host := some host, port,
      path := .segments path } rest

/-- Everything behind the two slashes of a URL that is no file. -/
def readAuthority (scheme : String) (cs : List Char) : Except UrlError Url :=
  let special := isSpecial scheme
  let (credentials, rest) := splitCredentials special cs
  let user := match credentials with
    | none => ([], [])
    | some c => Text.cutAt (· == ':') c
  let hostFollows := match rest with
    | [] => true
    | c :: _ => !(isSlash special c || endsPath c)
  let (name, rest) := splitHost special false rest
  -- A lone at sign with no host behind it is a mistake even where hosts may be empty.
  if (credentials = some [] && !hostFollows) || (special && name.isEmpty) then .error .emptyHost
  else do
    let host ← readHost scheme name
    if host = .name "" && (rest.head? = some ':' || !user.1.isEmpty || !user.2.isEmpty) then
      .error .emptyHost
    else do
      let (port, rest) ← readPortIfAny scheme rest
      return authorityUrl scheme user host port rest

/-! ## Files -/

/-- A URL of a file from its host and path. -/
def fileUrl (host : Host) (path : List String) : Url :=
  { scheme := "file", host := some host, path := .segments path }

/-- The host of a file. A drive in its place is none, and the computer itself goes unnamed. -/
def readFileHostName (name : List Char) : Except UrlError Host :=
  if name.isEmpty || isDrive name then .ok (.name "")
  else
    match Host.read name with
    | .ok (.name "localhost") => .ok (.name "")
    | answer => answer

/-- Everything behind the two slashes of the URL of a file. A drive in place of the host belongs to the
path, and before a drive no host counts. -/
def readFileHost (cs : List Char) : Except UrlError Url := do
  let stop (c : Char) := isSlash true c || endsPath c
  let name := cs.takeWhile fun c => !stop c
  let host ← readFileHostName name
  -- A drive is read again, as the first segment of the path.
  let rest := if isDrive name then cs else cs.dropWhile fun c => !stop c
  let (path, tail) := if host = .name "" then readPath "file" [] rest else readPathStart "file" rest
  let host := if (path.head?.map isNormalDrive).getD false then .name "" else host
  return withTail (fileUrl host path) tail

/-- The segments of a path. -/
def segmentsOf (u : Url) : List String :=
  match u.path with
  | .segments l => l
  | .opaqueText _ => []

/-- A reference to a file, resolved against another file if one is given. -/
def readFile (base : Option Url) (cs : List Char) : Except UrlError Url :=
  match cs with
  | c :: r =>
    if isSlash true c then
      match r with
      | d :: rest =>
        if isSlash true d then readFileHost rest else .ok (rooted c r)
      | [] => .ok (rooted c r)
    else relative cs
  | [] => relative cs
where
  /-- One slash at the front: the drive or the host of the base stays. -/
  rooted (_ : Char) (r : List Char) : Url :=
    let base := if startsWithDrive r then none else base
    let drive := (base.bind fun b => (segmentsOf b).head?).filter isNormalDrive
    let host := if drive.isSome then Host.name "" else (base.bind Url.host).getD (.name "")
    let (path, tail) := readPath "file" drive.toList r
    withTail (fileUrl host path) tail
  /-- No slash at the front. -/
  relative (cs : List Char) : Except UrlError Url :=
    match base with
    | none =>
      let (path, tail) := readPath "file" [] cs
      .ok (withTail (fileUrl (.name "") path) tail)
    | some b =>
      match cs with
      | [] => .ok { b with fragment := none }
      | '?' :: _ => .ok (withTail { b with query := none, fragment := none } cs)
      | '#' :: _ => .ok (withTail { b with fragment := none } cs)
      | _ =>
        -- A drive is a place of its own; nothing of the base is left.
        if startsWithDrive cs then
          let (path, tail) := readPath "file" [] cs
          .ok (withTail (fileUrl (.name "") path) tail)
        else
          let (path, tail) := readPath "file" (shorten true (segmentsOf b)) cs
          .ok (withTail { b with path := .segments path, query := none, fragment := none } tail)

/-! ## References -/

/-- A reference without a scheme, resolved against a URL that is no file. -/
def readRelative (base : Url) (cs : List Char) : Except UrlError Url :=
  match cs with
  | [] => .ok { base with fragment := none }
  | '?' :: _ => .ok (withTail { base with query := none, fragment := none } cs)
  | '#' :: _ => .ok (withTail { base with fragment := none } cs)
  | '/' :: '/' :: r => readAuthority base.scheme r
  | c :: r =>
    if isSlash true c then
      -- Two slashes of either kind lead to another host.
      if (r.head?.map (isSlash true)).getD false then
        readAuthority base.scheme (r.dropWhile (isSlash true))
      else
        let (path, tail) := readPath base.scheme [] r
        .ok (withTail { base with path := .segments path, query := none, fragment := none } tail)
    else
      let (path, tail) := readPath base.scheme (segmentsOf base).dropLast cs
      .ok (withTail { base with path := .segments path, query := none, fragment := none } tail)

/-- A URL of a scheme that is none of the web, behind the colon. -/
def readOther (scheme : String) (cs : List Char) : Except UrlError Url :=
  match cs with
  | '/' :: '/' :: r => readAuthority scheme r
  | '/' :: r =>
    let (path, tail) := readPath scheme [] r
    .ok (withTail { scheme, path := .segments path } tail)
  | cs =>
    let text := Percent.encode [] (cs.takeWhile fun c => !endsPath c)
    .ok (withTail { scheme, path := .opaqueText (String.ofList text) }
      (cs.dropWhile fun c => !endsPath c))

/-- A text with a scheme. Behind a scheme of the web slashes may be missing or too many; a reference of the
base's own scheme with fewer than two is relative. -/
def readWithScheme (base : Option Url) (scheme : String) (cs : List Char) : Except UrlError Url :=
  if scheme = "file" then readFile (base.filter fun b => b.scheme = "file") cs
  else if isSpecial scheme then
    let slashes := (cs.takeWhile (isSlash true)).length
    match base with
    | some b =>
      if slashes < 2 ∧ b.scheme = scheme then readRelative b cs else readAuthority scheme (cs.drop slashes)
    | none => readAuthority scheme (cs.drop slashes)
  else readOther scheme cs

/-- Read a text, resolved against a base if one is given. -/
def readFrom (base : Option Url) (s : String) : Except UrlError Url :=
  let cs := clean s
  match splitScheme? cs with
  | some (scheme, r) => readWithScheme base scheme r
  | none =>
    match base with
    | none => .error .relativeWithoutBase
    | some b =>
      match b.path, cs with
      -- A fragment alone can be resolved against any URL.
      | _, '#' :: _ => .ok (withTail { b with fragment := none } cs)
      | .opaqueText _, _ => .error .relativeToOpaque
      | .segments _, _ => if b.scheme = "file" then readFile (some b) cs else readRelative b cs

/-- Read an absolute URL. -/
def parse (s : String) : Except UrlError Url := readFrom none s

/-- Resolve a reference against a URL. -/
def join (base : Url) (reference : String) : Except UrlError Url := readFrom (some base) reference

/-- Append a field to the query. -/
def addQueryField (u : Url) (name value : String) : Url :=
  let field := Percent.encodeForm name ++ "=" ++ Percent.encodeForm value
  match u.query with
  | none => { u with query := some field }
  | some "" => { u with query := some field }
  | some q => { u with query := some (q ++ "&" ++ field) }

end LinkEmbed.Url
