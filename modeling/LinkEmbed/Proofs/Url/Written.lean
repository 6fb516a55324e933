import LinkEmbed.Proofs.Url.Address
import LinkEmbed.Url.Parser

/-!
# What reading a URL leaves in its parts

Reading a URL leaves every part of it in a form in which it cannot be mistaken for another: characters that delimit
the parts are encoded where they could be taken for a delimiter, addresses are in bounds, and no name is an address.

* `Url.IsWritten`, with `Host.IsWritten`, `UrlPath.IsWritten` and `UrlPath.StandsAlone` — the form of the parts.
* `Percent.mem_encode`, `Percent.not_mem_encode` — what encoding lets through.
* `Host.isWritten_of_read`, `Host.isWritten_of_readOther` — hosts.
* `Url.segments_of_readPath`, `Url.segments_of_readPathStart` — paths, in which single dots are gone.
* `Url.isWritten_of_parse` — every URL that was read has its parts in written form.

The proof follows the parser: a lemma for each of its functions says which part that function fills, and how.
-/

namespace LinkEmbed

/-- A step that follows another answers only if that one does. -/
theorem ok_of_bind {ε α β : Type} {x : Except ε α} {f : α → Except ε β} {b : β}
    (h : (x >>= f) = .ok b) : ∃ a, x = .ok a ∧ f a = .ok b := by
  cases x with
  | error e => cases h
  | ok a => exact ⟨a, rfl, h⟩

namespace Percent

/-- A byte is encoded as a percent sign and two digits. -/
theorem isAlphanum_of_mem_encodeByte {b : Nat} (hb : b < 256) {c : Char} (h : c ∈ encodeByte b) :
    c.isAlphanum = true ∨ c = '%' := by
  have hdigit : ∀ i : Fin 16, (upperHexDigit i.val).isAlphanum = true := by decide
  simp only [encodeByte, List.mem_cons, List.not_mem_nil, or_false] at h
  rcases h with rfl | rfl | rfl
  · exact Or.inr rfl
  · exact Or.inl (hdigit ⟨b / 16, by omega⟩)
  · exact Or.inl (hdigit ⟨b % 16, by omega⟩)

/-- Encoding adds nothing but percent signs and digits. -/
theorem mem_encode {set cs : List Char} {c : Char} (h : c ∈ encode set cs) :
    (c.isAlphanum = true ∨ c = '%') ∨ (c ∈ cs ∧ c ∉ set) := by
  obtain ⟨d, hd, hc⟩ := List.mem_flatMap.mp h
  unfold encodeChar at hc
  split at hc
  next =>
    -- The character is encoded, byte by byte.
    obtain ⟨b, hb, hc⟩ := List.mem_flatMap.mp hc
    obtain ⟨byte, -, rfl⟩ := List.mem_map.mp hb
    exact Or.inl (isAlphanum_of_mem_encodeByte byte.toNat_lt hc)
  next hplain =>
    obtain rfl := List.mem_singleton.mp hc
    have hset : c ∉ set := fun hc => hplain (Or.inr (Or.inr (List.contains_iff_mem.mpr hc)))
    exact Or.inr ⟨hd, hset⟩

/-- A delimiter is none of the characters of an encoded text, unless it was there and is let through. -/
theorem not_mem_encode {set cs : List Char} {c : Char} (hc : c.isAlphanum = false ∧ c ≠ '%')
    (h : c ∈ cs → c ∈ set) : c ∉ encode set cs := by
  intro hmem
  rcases mem_encode hmem with (hdigit | hpercent) | ⟨hin, hout⟩
  · rw [hc.1] at hdigit
    cases hdigit
  · exact hc.2 hpercent
  · exact hout (h hin)

/-- What an encoded text begins with is encoded, or begins the text. -/
theorem head?_encode {set cs : List Char} {c : Char} (h : (encode set cs).head? = some c) :
    c = '%' ∨ cs.head? = some c := by
  cases cs with
  | nil => cases h
  | cons d r =>
    rw [encode, List.flatMap_cons, encodeChar] at h
    split at h
    next =>
      obtain ⟨b, bs, hbs⟩ := List.exists_cons_of_ne_nil (String.utf8EncodeChar_ne_nil (c := d))
      rw [bytes, hbs] at h
      exact Or.inl (Option.some.inj h).symm
    next => exact Or.inr h

end Percent

namespace Url

/-- Characters at which a part of a URL may end. -/
def delimiters : List Char := ['/', '?', '#', '@', ':', '[']

/-- No delimiter comes out of the encoding of another character. -/
theorem delimiter_plain {c : Char} (h : c ∈ delimiters) : c.isAlphanum = false ∧ c ≠ '%' := by
  have hall : ∀ c ∈ delimiters, c.isAlphanum = false ∧ c ≠ '%' := Text.forall_of_all (by decide)
  exact hall c h

/-- A segment of a path as reading leaves it. -/
def IsSegment (s : String) : Prop := s ≠ "." ∧ '/' ∉ s.toList ∧ '?' ∉ s.toList ∧ '#' ∉ s.toList

end Url

/-- A host as reading leaves it. -/
def Host.IsWritten (special : Bool) : Host → Prop
  | .name s => (∀ c ∈ s.toList, c ∉ Url.delimiters) ∧ (special = true → Host.endsInNumber s.toList = false)
  | .ipv4 n => special = true ∧ n < 2 ^ 32
  | .ipv6 ps => ps.length = 8

/-- A path as reading leaves it. -/
def UrlPath.IsWritten : UrlPath → Prop
  | .opaqueText s => '?' ∉ s.toList ∧ '#' ∉ s.toList
  | .segments l => ∀ s ∈ l, Url.IsSegment s

/-- A path as reading leaves it when there is no host: it is not taken for one with a host. -/
def UrlPath.StandsAlone : UrlPath → Prop
  | .opaqueText s => s.toList.head? ≠ some '/'
  | .segments l => l ≠ []

/-- A URL as reading leaves it. -/
structure Url.IsWritten (u : Url) : Prop where
  scheme : ':' ∉ u.scheme.toList
  username : ∀ c ∈ u.username.toList, c ∉ Url.delimiters
  password : ∀ c ∈ u.password.toList, c ∉ Url.delimiters
  host : ∀ h, u.host = some h → h.IsWritten (Url.isSpecial u.scheme) ∧ ∃ l, u.path = .segments l
  alone : u.host = none → u.username = "" ∧ u.password = "" ∧ u.port = none ∧ u.path.StandsAlone
  path : u.path.IsWritten
  query : ∀ q, u.query = some q → '#' ∉ q.toList

namespace Host

/-! ## Hosts -/

/-- What stands in brackets is an address of eight pieces. -/
theorem isWritten_of_readBracketed {cs : List Char} {h : Host} {special : Bool}
    (hread : readBracketed cs = .ok h) : h.IsWritten special := by
  unfold readBracketed at hread
  split at hread
  next r _ =>
    cases hps : readIpv6 r.reverse with
    | error e => simp [hps, Except.map] at hread
    | ok ps =>
      obtain rfl : Host.ipv6 ps = h := by simpa [hps, Except.map] using hread
      exact length_of_readIpv6 hps
  next => cases hread

end Host

namespace Domain

/-- A name in ASCII holds no character that is forbidden. -/
theorem not_isForbidden_of_toAscii? {name cs : List Char} (h : toAscii? name = some cs) {c : Char}
    (hc : c ∈ cs) : isForbidden c = false := by
  unfold toAscii? at h
  obtain ⟨mapped, -, h⟩ := Option.bind_eq_some_iff.mp h
  obtain ⟨labels, -, h⟩ := Option.bind_eq_some_iff.mp h
  extract_lets anyRightToLeft at h
  split at h
  next => cases h
  next =>
    split at h
    next => cases h
    next hlabels =>
      obtain rfl := Option.some.inj h
      -- A name is its labels with points between them, and the labels were checked.
      rcases Text.mem_of_mem_intercalate hc with rfl | ⟨w, hw, hcw⟩
      · decide
      · obtain ⟨l, hl, rfl⟩ := List.mem_map.mp hw
        by_contra hforbidden
        exact hlabels (List.any_eq_true.mpr ⟨l, hl, List.any_eq_true.mpr ⟨c, hcw, by simpa using hforbidden⟩⟩)

end Domain

namespace Host

/-- Under a scheme of the web a host is an address, or a name without delimiters that is no address. -/
theorem isWritten_of_read {cs : List Char} {h : Host} (hread : read cs = .ok h) : h.IsWritten true := by
  have hforbidden : ∀ c ∈ Url.delimiters, Domain.isForbidden c = true := Text.forall_of_all (by decide)
  unfold read at hread
  split at hread
  next => exact isWritten_of_readBracketed hread
  next =>
    split at hread
    next => cases hread
    next => cases hread
    next domain _ hdomain =>
      obtain ⟨name, -, hname⟩ := Option.bind_eq_some_iff.mp hdomain
      split at hread
      next hnumber =>
        cases hn : readIpv4 domain with
        | error e => simp [hn, Except.map] at hread
        | ok n =>
          obtain rfl : Host.ipv4 n = h := by simpa [hn, Except.map] using hread
          exact ⟨rfl, lt_of_readIpv4 hn⟩
      next hnumber =>
        -- All delimiters are forbidden in a name.
        obtain rfl := Except.ok.inj hread
        simp only [IsWritten, String.toList_ofList]
        refine ⟨fun c hc hdelimiter => ?_, fun _ => by simpa using hnumber⟩
        have hallowed := Domain.not_isForbidden_of_toAscii? hname hc
        rw [hforbidden c hdelimiter] at hallowed
        cases hallowed

/-- Under another scheme a host is an address in brackets, or a name without delimiters. -/
theorem isWritten_of_readOther {cs : List Char} {h : Host} (hread : readOther cs = .ok h) :
    h.IsWritten false := by
  have hforbidden : ∀ c ∈ Url.delimiters, forbidden.contains c = true := Text.forall_of_all (by decide)
  unfold readOther at hread
  split at hread
  next => exact isWritten_of_readBracketed hread
  next =>
    split at hread
    next => cases hread
    next hallowed =>
      obtain rfl := Except.ok.inj hread
      simp only [IsWritten, String.toList_ofList]
      refine ⟨fun c hc hdelimiter => ?_, fun h => by cases h⟩
      refine Percent.not_mem_encode (Url.delimiter_plain hdelimiter) (fun hmem => ?_) hc
      exact absurd (List.any_eq_true.mpr ⟨c, hmem, hforbidden c hdelimiter⟩) hallowed

end Host

namespace Url

/-! ## Paths -/

theorem isSegment_empty : IsSegment "" := by simp [IsSegment]

/-- A list of which every member satisfies a condition still does so without its end. -/
theorem forall_shorten {p : String → Prop} {file : Bool} {path : List String} (h : ∀ s ∈ path, p s) :
    ∀ s ∈ shorten file path, p s := by
  intro s hs
  unfold shorten at hs
  split at hs
  next t =>
    split at hs
    · exact h s hs
    · cases hs
  next => exact h s (List.dropLast_subset path hs)

/-- A drive with its colon is a segment. -/
theorem isSegment_drive {segment : List Char} (hdrive : isDrive segment = true)
    (h : '/' ∉ segment ∧ '?' ∉ segment ∧ '#' ∉ segment) :
    IsSegment (String.ofList (segment.take 1 ++ [':'])) := by
  unfold isDrive at hdrive
  split at hdrive
  next c d =>
    refine ⟨fun hone => ?_, ?_⟩
    · simpa using congrArg (fun s => s.toList.length) hone
    · simp_all
  next => cases hdrive

theorem isSegment_append {path : List String} {segment : String} (hpath : ∀ s ∈ path, IsSegment s)
    (h : IsSegment segment) : ∀ s ∈ path ++ [segment], IsSegment s :=
  List.forall_mem_append.mpr ⟨hpath, List.forall_mem_singleton.mpr h⟩

/-- Segments stay segments when one is added. -/
theorem isSegment_addSegment {file : Bool} {path : List String} {segment : List Char} {slash : Bool}
    (hpath : ∀ s ∈ path, IsSegment s) (h : '/' ∉ segment ∧ '?' ∉ segment ∧ '#' ∉ segment) :
    ∀ s ∈ addSegment file path segment slash, IsSegment s := by
  unfold addSegment
  extract_lets text lower shorter
  split
  next =>
    -- Two dots take the last segment away.
    split
    · exact forall_shorten hpath
    · exact isSegment_append (forall_shorten hpath) isSegment_empty
  next =>
    split
    next =>
      -- One dot adds nothing.
      split
      · exact hpath
      · exact isSegment_append hpath isSegment_empty
    next hdot =>
      split
      next hdrive =>
        simp only [Bool.and_eq_true] at hdrive
        exact isSegment_append hpath (isSegment_drive hdrive.2 h)
      next =>
        -- The segment is kept as it is, and is no dot.
        refine isSegment_append hpath ⟨fun hone => hdot ?_, by simpa [text] using h⟩
        obtain rfl : segment = ['.'] := by simpa [text] using congrArg String.toList hone
        decide

/-- The last segment of a path leaves one behind, an empty one if it is a dot. -/
theorem addSegment_ne_nil {file : Bool} {path : List String} {segment : List Char} :
    addSegment file path segment false ≠ [] := by
  unfold addSegment
  extract_lets text lower shorter
  repeat' split
  all_goals simp_all

/-- A part up to a stop holds none of the characters at which it stops, encoded or not. -/
theorem not_mem_encode_takeWhile {set cs : List Char} {stop : Char → Bool} {c : Char} (hc : c ∈ delimiters)
    (hstop : stop c = true) : c ∉ Percent.encode set (cs.takeWhile fun c => !stop c) := by
  refine Percent.not_mem_encode (delimiter_plain hc) fun hmem => ?_
  have hpassed := List.mem_takeWhile_imp hmem
  simp [hstop] at hpassed

/-- As long as there is room for all segments of a text, each is one, and there is at least one. -/
theorem segments_of_addSegments {special file : Bool} {more : Nat} {path : List String} {cs : List Char}
    (hroom : cs.length < more) (hpath : ∀ s ∈ path, IsSegment s) :
    (addSegments special file more path cs).1 ≠ [] ∧
      ∀ s ∈ (addSegments special file more path cs).1, IsSegment s := by
  -- The induction is on the room that is left; each segment takes a character of the text at least.
  induction more generalizing path cs with
  | zero => cases hroom
  | succ more ih =>
    unfold addSegments
    extract_lets stop segment
    have hsegment : '/' ∉ segment ∧ '?' ∉ segment ∧ '#' ∉ segment :=
      ⟨not_mem_encode_takeWhile (by decide) (by simp [stop, isSlash]),
        not_mem_encode_takeWhile (by decide) (by simp [stop, endsPath]),
        not_mem_encode_takeWhile (by decide) (by simp [stop, endsPath])⟩
    split
    next => exact ⟨addSegment_ne_nil, isSegment_addSegment hpath hsegment⟩
    next c r hrest =>
      have hshorter : r.length < cs.length := by
        have := (List.dropWhile_sublist (fun c => !stop c) (l := cs)).length_le
        rw [hrest] at this
        exact this
      split
      next => exact ih (by omega) (isSegment_addSegment hpath hsegment)
      next => exact ⟨addSegment_ne_nil, isSegment_addSegment hpath hsegment⟩

/-- Segments without the empty ones in front are segments, and one is there in any case. -/
theorem segments_of_trimFilePath {path : List String} (h : ∀ s ∈ path, IsSegment s) :
    trimFilePath path ≠ [] ∧ ∀ s ∈ trimFilePath path, IsSegment s := by
  unfold trimFilePath
  split
  next => exact ⟨by simp, fun s hs => List.mem_singleton.mp hs ▸ isSegment_empty⟩
  next hne => exact ⟨hne, fun s hs => h s ((List.dropWhile_sublist _).subset hs)⟩

/-- A path that is read has segments, and one at least. -/
theorem segments_of_readPath (scheme : String) (cs : List Char) :
    (readPath scheme [] cs).1 ≠ [] ∧ ∀ s ∈ (readPath scheme [] cs).1, IsSegment s := by
  let read := addSegments (isSpecial scheme) (scheme == "file") (cs.length + 1) [] cs
  have hsegments : read.1 ≠ [] ∧ ∀ s ∈ read.1, IsSegment s :=
    segments_of_addSegments (Nat.lt_succ_self cs.length) (List.forall_mem_nil IsSegment)
  have hpath : (readPath scheme [] cs).1 = if scheme == "file" then trimFilePath read.1 else read.1 := rfl
  rw [hpath]
  split
  · exact segments_of_trimFilePath hsegments.2
  · exact hsegments

/-- Behind a host there may be no segments at all. -/
theorem segments_of_readPathStart (scheme : String) (cs : List Char) :
    ∀ s ∈ (readPathStart scheme cs).1, IsSegment s := by
  unfold readPathStart
  split
  next =>
    split
    · exact (segments_of_readPath scheme []).2
    · exact List.forall_mem_nil IsSegment
  next c r =>
    split
    · exact (segments_of_readPath scheme r).2
    · split
      · exact List.forall_mem_nil IsSegment
      · exact (segments_of_readPath scheme _).2

/-! ## Query and fragment -/

/-- Reading a query and a fragment leaves all other parts as they are. -/
theorem withTail_eq (u : Url) (cs : List Char) :
    ∃ query fragment, withTail u cs = { u with query, fragment } ∧
      ∀ q, query = some q → '#' ∉ q.toList ∨ u.query = some q := by
  unfold withTail
  extract_lets set fragment
  -- A query comes before a fragment; there may be either, both or none.
  split
  next r =>
    extract_lets query
    have hquery : ∀ q, query = some q → '#' ∉ q.toList := by
      intro q hq
      obtain rfl := Option.some.inj hq
      rw [String.toList_ofList]
      refine Percent.not_mem_encode (delimiter_plain (by decide)) fun hmem => ?_
      simpa using List.mem_takeWhile_imp hmem
    split
    · exact ⟨query, none, rfl, fun q hq => Or.inl (hquery q hq)⟩
    · exact ⟨query, _, rfl, fun q hq => Or.inl (hquery q hq)⟩
  next f => exact ⟨u.query, _, rfl, fun q hq => Or.inr hq⟩
  next => exact ⟨u.query, u.fragment, rfl, fun q hq => Or.inr hq⟩

/-- A query and a fragment are written as they should be. -/
theorem isWritten_withTail {u : Url} (h : u.IsWritten) (cs : List Char) : (withTail u cs).IsWritten := by
  obtain ⟨query, fragment, hu, hquery⟩ := withTail_eq u cs
  rw [hu]
  exact { h with query := fun q hq => (hquery q hq).elim id (h.query q) }

/-! ## The whole -/

/-- A character of a scheme is no colon in lower case either. -/
theorem toLower_ne_colon {c : Char} (h : isSchemeChar c = true) : c.toLower ≠ ':' := by
  intro hlower
  unfold Char.toLower at hlower
  split at hlower
  next hupper =>
    -- No letter in upper case lies as far below the colon as that.
    have hval : c.val + ('a'.val - 'A'.val) = ':'.val := congrArg Char.val hlower
    have hc : c.val = ':'.val - ('a'.val - 'A'.val) := by rw [← hval, UInt32.add_sub_cancel]
    rw [hc] at hupper
    exact absurd hupper (by decide)
  next =>
    subst hlower
    exact absurd h (by decide)

/-- A scheme ends before the colon. -/
theorem colon_of_splitScheme? {cs r : List Char} {scheme : String} (h : splitScheme? cs = some (scheme, r)) :
    ':' ∉ scheme.toList := by
  unfold splitScheme? at h
  split at h
  next c l =>
    split at h
    next =>
      split at h
      next rest _ =>
        obtain ⟨rfl, -⟩ := Prod.mk.inj (Option.some.inj h)
        rw [String.toList_ofList]
        -- The scheme was taken as long as its characters may stand in one, and put in lower case.
        intro hcolon
        obtain ⟨d, hd, hlower⟩ := List.mem_map.mp hcolon
        exact toLower_ne_colon (List.mem_takeWhile_imp hd) hlower
      next => cases h
    next => cases h
  next => cases h

/-- Name and password are written without delimiters. -/
theorem not_delimiter_of_encodeUser {cs : List Char} :
    ∀ c ∈ (String.ofList (Percent.encode Percent.userSet cs)).toList, c ∉ delimiters := by
  intro c hc hdelimiter
  have hset : ∀ c ∈ delimiters, c ∈ Percent.userSet := Text.forall_of_all (by decide)
  rw [String.toList_ofList] at hc
  exact Percent.not_mem_encode (delimiter_plain hdelimiter) (fun _ => hset c hdelimiter) hc

/-- With a host, everything that is left is a path, a query and a fragment. -/
theorem isWritten_authorityUrl {scheme : String} {user : List Char × List Char} {host : Host}
    {port : Option Nat} {cs : List Char} (hscheme : ':' ∉ scheme.toList)
    (hhost : host.IsWritten (isSpecial scheme)) : (authorityUrl scheme user host port cs).IsWritten := by
  refine isWritten_withTail ?_ _
  exact {
    scheme := hscheme
    username := not_delimiter_of_encodeUser
    password := not_delimiter_of_encodeUser
    host := fun h hh => ⟨Option.some.inj hh ▸ hhost, _, rfl⟩
    alone := fun h => by cases h
    path := segments_of_readPathStart scheme cs
    query := fun q hq => by cases hq }

/-- Which form a host has depends on the scheme. -/
theorem isWritten_of_readHost {scheme : String} {name : List Char} {host : Host}
    (h : readHost scheme name = .ok host) : host.IsWritten (isSpecial scheme) := by
  unfold readHost at h
  split at h
  next hspecial => exact hspecial ▸ Host.isWritten_of_read h
  next hother => exact (Bool.eq_false_iff.mpr hother) ▸ Host.isWritten_of_readOther h

/-- A URL with a host is written as it should be. -/
theorem isWritten_of_readAuthority {scheme : String} {cs : List Char} {u : Url} (hscheme : ':' ∉ scheme.toList)
    (h : readAuthority scheme cs = .ok u) : u.IsWritten := by
  unfold readAuthority at h
  extract_lets special at h
  split at h
  extract_lets user hostFollows at h
  split at h
  split at h
  next => cases h
  next =>
    obtain ⟨host, hhost, h⟩ := ok_of_bind h
    split at h
    next => cases h
    next =>
      obtain ⟨port, -, h⟩ := ok_of_bind h
      obtain rfl := Except.ok.inj h
      exact isWritten_authorityUrl hscheme (isWritten_of_readHost hhost)

theorem isWritten_noName : (Host.name "").IsWritten true := ⟨by simp, fun _ => rfl⟩

/-- The host of a file is read as one of the web; the local one is left out. -/
theorem isWritten_of_readFileHostName {name : List Char} {host : Host} (h : readFileHostName name = .ok host) :
    host.IsWritten true := by
  unfold readFileHostName at h
  split at h
  next => exact Except.ok.inj h ▸ isWritten_noName
  next =>
    split at h
    next => exact Except.ok.inj h ▸ isWritten_noName
    next => exact Host.isWritten_of_read h

/-- A file has a host, if only the empty one, and segments. -/
theorem isWritten_fileUrl {host : Host} {path : List String} (hhost : host.IsWritten true)
    (hpath : ∀ s ∈ path, IsSegment s) : (fileUrl host path).IsWritten where
  scheme := by simp [fileUrl]
  username := by simp [fileUrl]
  password := by simp [fileUrl]
  host h hh := ⟨Option.some.inj hh ▸ hhost, _, rfl⟩
  alone h := by cases h
  path := hpath
  query q hq := by cases hq

/-- A file with a host in front of its path is written as it should be. -/
theorem isWritten_of_readFileHost {cs : List Char} {u : Url} (h : readFileHost cs = .ok u) : u.IsWritten := by
  unfold readFileHost at h
  extract_lets stop name rest at h
  obtain ⟨host, hhost, h⟩ := ok_of_bind h
  have hpath : ∀ s ∈ (if host = .name "" then readPath "file" [] rest else readPathStart "file" rest).1,
      IsSegment s := by
    split
    · exact (segments_of_readPath "file" rest).2
    · exact segments_of_readPathStart "file" rest
  obtain rfl := Except.ok.inj h
  refine isWritten_withTail (isWritten_fileUrl ?_ hpath) _
  split
  · exact isWritten_noName
  · exact isWritten_of_readFileHostName hhost

/-- Without another file to start from, a path begins at the root. -/
theorem isWritten_of_readFile {cs : List Char} {u : Url} (h : readFile none cs = .ok u) : u.IsWritten := by
  -- There is no other file, so nothing of one is kept.
  have hroot : ∀ r, (withTail (fileUrl (.name "") (readPath "file" [] r).1)
      (readPath "file" [] r).2).IsWritten :=
    fun r => isWritten_withTail (isWritten_fileUrl isWritten_noName (segments_of_readPath "file" r).2) _
  have hrooted : ∀ c r, (readFile.rooted none c r).IsWritten := by
    intro c r
    unfold readFile.rooted
    simp only [ite_self]
    exact hroot r
  unfold readFile at h
  split at h
  next c r =>
    split at h
    next =>
      split at h
      next d rest =>
        split at h
        next => exact isWritten_of_readFileHost h
        next => exact Except.ok.inj h ▸ hrooted c (d :: rest)
      next => exact Except.ok.inj h ▸ hrooted c []
    next => exact Except.ok.inj h ▸ hroot (c :: r)
  next => exact Except.ok.inj h ▸ hroot []

/-- A scheme and a path make a URL when no host is there. -/
theorem isWritten_alone {scheme : String} {path : UrlPath} (hscheme : ':' ∉ scheme.toList)
    (hpath : path.IsWritten) (halone : path.StandsAlone) : Url.IsWritten { scheme, path } where
  scheme := hscheme
  username := by simp
  password := by simp
  host h hh := by cases hh
  alone _ := ⟨rfl, rfl, rfl, halone⟩
  path := hpath
  query q hq := by cases hq

/-- A text that is no path of segments stands alone: one that begins with a slash is read as segments. -/
theorem standsAlone_opaqueText {cs set : List Char} {stop : Char → Bool} (hslash : ∀ r, cs ≠ '/' :: r) :
    (UrlPath.opaqueText (String.ofList (Percent.encode set (cs.takeWhile fun c => !stop c)))).StandsAlone := by
  intro hhead
  rw [String.toList_ofList] at hhead
  rcases Percent.head?_encode hhead with hpercent | hhead
  · cases hpercent
  · cases cs with
    | nil => cases hhead
    | cons c r =>
      rw [List.takeWhile_cons] at hhead
      split at hhead
      · obtain rfl := Option.some.inj hhead
        exact hslash r rfl
      · cases hhead

/-- Under another scheme there is a host, a path of segments, or a text that is neither. -/
theorem isWritten_of_readOther {scheme : String} {cs : List Char} {u : Url} (hscheme : ':' ∉ scheme.toList)
    (h : readOther scheme cs = .ok u) : u.IsWritten := by
  unfold readOther at h
  -- Two slashes, one, or none.
  split at h
  next r => exact isWritten_of_readAuthority hscheme h
  next r hr =>
    obtain rfl := Except.ok.inj h
    obtain ⟨hne, hsegments⟩ := segments_of_readPath scheme r
    have hpath : (UrlPath.segments (readPath scheme [] r).1).IsWritten := hsegments
    exact isWritten_withTail (isWritten_alone hscheme hpath hne) _
  next hauthority hr =>
    extract_lets text at h
    obtain rfl := Except.ok.inj h
    have hpath : (UrlPath.opaqueText (String.ofList text)).IsWritten := by
      simp only [UrlPath.IsWritten, String.toList_ofList]
      exact ⟨not_mem_encode_takeWhile (by decide) (by decide), not_mem_encode_takeWhile (by decide) (by decide)⟩
    exact isWritten_withTail (isWritten_alone hscheme hpath (standsAlone_opaqueText hr)) _

/-- Every URL that was read has its parts in written form. -/
theorem isWritten_of_parse {s : String} {u : Url} (h : parse s = .ok u) : u.IsWritten := by
  unfold parse readFrom at h
  extract_lets cs at h
  split at h
  next scheme r hsplit =>
    have hscheme := colon_of_splitScheme? hsplit
    unfold readWithScheme at h
    split at h
    next => exact isWritten_of_readFile h
    next =>
      split at h
      next => exact isWritten_of_readAuthority hscheme h
      next => exact isWritten_of_readOther hscheme h
  next => cases h

end Url

end LinkEmbed
