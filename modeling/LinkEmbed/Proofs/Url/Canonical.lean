import LinkEmbed.Proofs.Url.Written

/-!
# A URL is known by its text

The text of a URL that was read is taken apart at the characters that delimit its parts, and none of them stands in
a part where it would be mistaken.

* `Host.text_append_injective` — a host and the port behind it are known apart from each other.
* `Url.credentialsText_append_injective` — so are a name with its password and the host.
* `segmentsText_injective` — segments are known by their text.
* `Url.bodyText_ne_of_alone`, `Url.path_eq_of_alone` — without a host the text does not look as if there were one.
* `Url.IsWritten.eq_of_text_eq`, `Url.eq_of_text_eq` — two URLs that were read and have the same text are equal.
-/

namespace LinkEmbed

open Text (StopsAt append_inj_of_stop)

/-! ## Parts with a mark before them -/

/-- A part that may be missing, with its mark before it. -/
def markedText (mark : Char) : Option String → List Char
  | some s => mark :: s.toList
  | none => []

/-- What has a mark before it stops at the mark, and so does nothing. -/
theorem stopsAt_markedText {stop : Char → Bool} {mark : Char} (h : stop mark = true) (part : Option String) :
    StopsAt stop (markedText mark part) := by
  cases part <;> simp [markedText, h]

/-- A part is known with its mark, and whether there is one. -/
theorem markedText_injective {mark : Char} {a b : Option String} (h : markedText mark a = markedText mark b) :
    a = b := by
  cases a <;> cases b <;> simp_all [markedText, String.toList_inj]

/-- A character that is no delimiter is not a given one. -/
theorem ne_of_not_delimiter {c d : Char} (h : c ∉ Url.delimiters) (hd : d ∈ Url.delimiters) :
    (c == d) = false := by
  refine beq_eq_false_iff_ne.mpr ?_
  rintro rfl
  exact h hd

namespace Host

/-! ## Hosts -/

/-- A host is written in brackets, or without any delimiter. -/
theorem text_cases {special : Bool} {h : Host} (hw : h.IsWritten special) :
    (∃ ps, h = .ipv6 ps) ∨ ∀ c ∈ h.text.toList, c ∉ Url.delimiters := by
  cases h with
  | name s => exact Or.inr hw.1
  | ipv6 ps => exact Or.inl ⟨ps, rfl⟩
  | ipv4 n =>
    refine Or.inr fun c hc hdelimiter => ?_
    have hplain : ∀ c ∈ Url.delimiters, c.isAlphanum = false ∧ c ≠ '.' := Text.forall_of_all (by decide)
    obtain ⟨hdigit, hdot⟩ := hplain c hdelimiter
    rcases mem_ipv4Text hc with h | h
    · rw [h] at hdigit
      cases hdigit
    · exact hdot h

theorem toList_text_ipv6 (ps : List Nat) :
    (Host.ipv6 ps).text.toList = '[' :: ((ipv6Text ps).toList ++ [']']) := by
  simp [text]

/-- What is written without delimiters does not begin with a bracket. -/
theorem plain_ne_bracketed {a b l : List Char} (ha : ∀ c ∈ a, c ∉ Url.delimiters) (hb : StopsAt (· == ':') b) :
    a ++ b ≠ '[' :: l := by
  intro h
  cases a with
  | nil =>
    rw [List.nil_append] at h
    subst h
    simp at hb
  | cons c r =>
    obtain rfl := (List.cons.inj h).1
    exact ha _ List.mem_cons_self (by decide)

/-- A name that reads as a number is an address, so no name is the text of one. -/
theorem name_ne_ipv4 {special : Bool} {s : String} {n : Nat} (hs : (Host.name s).IsWritten special)
    (hn : (Host.ipv4 n).IsWritten special) : s ≠ ipv4Text n := by
  rintro rfl
  have hname := hs.2 hn.1
  rw [endsInNumber_ipv4Text] at hname
  cases hname

/-- A host outside brackets is known by its text: a name is never the text of an address. -/
theorem text_injective_of_plain {special : Bool} {g h : Host} (hg : g.IsWritten special)
    (hh : h.IsWritten special) (hgplain : ∀ c ∈ g.text.toList, c ∉ Url.delimiters)
    (hhplain : ∀ c ∈ h.text.toList, c ∉ Url.delimiters) (heq : g.text = h.text) : g = h := by
  -- An address in brackets holds a delimiter, so it is neither of the two.
  have hbracket : ∀ ps, ¬ ∀ c ∈ (Host.ipv6 ps).text.toList, c ∉ Url.delimiters := by
    intro ps hplain
    exact hplain '[' (by rw [toList_text_ipv6]; exact List.mem_cons_self) (by decide)
  cases g with
  | ipv6 ps => exact absurd hgplain (hbracket ps)
  | name s =>
    cases h with
    | name t => exact congrArg Host.name heq
    | ipv4 n => exact absurd heq (name_ne_ipv4 hg hh)
    | ipv6 ps => exact absurd hhplain (hbracket ps)
  | ipv4 m =>
    cases h with
    | name t => exact absurd heq.symm (name_ne_ipv4 hh hg)
    | ipv4 n => exact congrArg Host.ipv4 (ipv4Text_injective hg.2 hh.2 heq)
    | ipv6 ps => exact absurd hhplain (hbracket ps)

/-- A host and the port behind it are known apart from each other. -/
theorem text_append_injective {special : Bool} {g h : Host} {a b : List Char} (hg : g.IsWritten special)
    (hh : h.IsWritten special) (ha : StopsAt (· == ':') a) (hb : StopsAt (· == ':') b)
    (heq : g.text.toList ++ a = h.text.toList ++ b) : g = h ∧ a = b := by
  have hcolon : ∀ {k : Host}, (∀ c ∈ k.text.toList, c ∉ Url.delimiters) →
      ∀ c ∈ k.text.toList, (c == ':') = false :=
    fun hk c hc => ne_of_not_delimiter (hk c hc) (by decide)
  rcases text_cases hg with ⟨ps, rfl⟩ | hgplain <;> rcases text_cases hh with ⟨qs, rfl⟩ | hhplain
  · -- In brackets a host ends at the closing one.
    have hclosing : ∀ ps, ∀ c ∈ (ipv6Text ps).toList, (c == ']') = false := by
      intro ps c hc
      refine beq_eq_false_iff_ne.mpr ?_
      rintro rfl
      rcases mem_ipv6Text hc with h | h
      · exact absurd h (by decide)
      · cases h
    rw [toList_text_ipv6, toList_text_ipv6, List.cons_append, List.cons_append, List.append_assoc,
      List.append_assoc] at heq
    obtain ⟨hinner, hrest⟩ := append_inj_of_stop (hclosing ps) (hclosing qs) (by simp) (by simp)
      (List.cons.inj heq).2
    obtain rfl := ipv6Text_injective hg hh (String.toList_inj.mp hinner)
    exact ⟨rfl, by simpa using hrest⟩
  · rw [toList_text_ipv6, List.cons_append] at heq
    exact absurd heq.symm (plain_ne_bracketed hhplain hb)
  · rw [toList_text_ipv6, List.cons_append] at heq
    exact absurd heq (plain_ne_bracketed hgplain ha)
  · obtain ⟨htext, hrest⟩ := append_inj_of_stop (hcolon hgplain) (hcolon hhplain) ha hb heq
    exact ⟨text_injective_of_plain hg hh hgplain hhplain (String.toList_inj.mp htext), hrest⟩

end Host

/-! ## Paths -/

/-- Every segment has a slash before it. -/
theorem toList_segmentsText (l : List String) :
    (UrlPath.segments l).text.toList = l.flatMap fun s => '/' :: s.toList := by
  simp [UrlPath.text, List.flatMap_map]

/-- Segments begin at a slash. -/
theorem stopsAt_segmentsText (l : List String) :
    StopsAt (fun c => c == '/' || Url.endsPath c) (l.flatMap fun s => '/' :: s.toList) := by
  cases l <;> simp

/-- A segment does not hold what ends it. -/
theorem Url.IsSegment.not_stop {s : String} (h : Url.IsSegment s) :
    ∀ c ∈ s.toList, (c == '/' || Url.endsPath c) = false := by
  intro c hc
  obtain ⟨-, hslash, hquery, hfragment⟩ := h
  have hne : ∀ {d : Char}, d ∉ s.toList → (c == d) = false := fun hd => Text.beq_eq_false_of_not_mem hd hc
  simp [Url.endsPath, hne hslash, hne hquery, hne hfragment]

/-- Segments are known by their text. -/
theorem segmentsText_injective {l m : List String} (hl : ∀ s ∈ l, Url.IsSegment s)
    (hm : ∀ s ∈ m, Url.IsSegment s)
    (h : (l.flatMap fun s => '/' :: s.toList) = m.flatMap fun s => '/' :: s.toList) : l = m := by
  induction l generalizing m with
  | nil => cases m <;> simp_all
  | cons s l ih =>
    cases m with
    | nil => simp at h
    | cons t m =>
      rw [List.flatMap_cons, List.flatMap_cons] at h
      obtain ⟨hhead, hrest⟩ := append_inj_of_stop (hl s List.mem_cons_self).not_stop
        (hm t List.mem_cons_self).not_stop (stopsAt_segmentsText l) (stopsAt_segmentsText m)
        (List.cons.inj h).2
      rw [String.toList_inj.mp hhead, ih (fun x hx => hl x (List.mem_cons_of_mem s hx))
        (fun x hx => hm x (List.mem_cons_of_mem t hx)) hrest]

namespace Url

/-! ## Names and passwords -/

/-- Name and password without the sign behind them. -/
def userText (u : Url) : List Char :=
  u.username.toList ++ if u.password.isEmpty then [] else ':' :: u.password.toList

/-- There is a sign behind a name or a password, and none without both. -/
theorem toList_credentialsText (u : Url) :
    u.credentialsText.toList =
      if u.username.isEmpty ∧ u.password.isEmpty then [] else u.userText ++ ['@'] := by
  unfold credentialsText userText
  split
  next => rfl
  next => cases u.password.isEmpty <;> simp

/-- Name and password are known apart from each other. -/
theorem userText_injective {u v : Url} (hu : u.IsWritten) (hv : v.IsWritten) (h : u.userText = v.userText) :
    u.username = v.username ∧ u.password = v.password := by
  have hstops : ∀ w : Url, StopsAt (· == ':') (if w.password.isEmpty then [] else ':' :: w.password.toList) := by
    intro w
    split <;> simp
  obtain ⟨hname, hrest⟩ := append_inj_of_stop
    (fun c hc => ne_of_not_delimiter (hu.username c hc) (by decide))
    (fun c hc => ne_of_not_delimiter (hv.username c hc) (by decide)) (hstops u) (hstops v) h
  refine ⟨String.toList_inj.mp hname, ?_⟩
  split at hrest <;> split at hrest
  next hu hv => rw [String.isEmpty_iff.mp hu, String.isEmpty_iff.mp hv]
  next => cases hrest
  next => cases hrest
  next => exact String.toList_inj.mp (List.cons.inj hrest).2

/-- The sign behind the name stands neither in the name nor in the password. -/
theorem not_at_of_mem_userText {u : Url} (hu : u.IsWritten) : ∀ c ∈ u.userText, (c == '@') = false := by
  intro c hc
  rcases List.mem_append.mp hc with hc | hc
  · exact ne_of_not_delimiter (hu.username c hc) (by decide)
  · split at hc
    · cases hc
    · rcases List.mem_cons.mp hc with rfl | hc
      · decide
      · exact ne_of_not_delimiter (hu.password c hc) (by decide)

/-- Name and password are known apart from a host behind them. -/
theorem credentialsText_append_injective {u v : Url} (hu : u.IsWritten) (hv : v.IsWritten) {a b : List Char}
    (ha : '@' ∉ a) (hb : '@' ∉ b)
    (h : u.credentialsText.toList ++ a = v.credentialsText.toList ++ b) :
    (u.username = v.username ∧ u.password = v.password) ∧ a = b := by
  rw [toList_credentialsText, toList_credentialsText] at h
  split at h <;> split at h
  next hnone hnone' =>
    rw [String.isEmpty_iff, String.isEmpty_iff] at hnone hnone'
    exact ⟨⟨hnone.1.trans hnone'.1.symm, hnone.2.trans hnone'.2.symm⟩, h⟩
  next =>
    -- One of the two has no sign behind its name, but the other has.
    obtain rfl := (List.nil_append a).symm.trans h
    exact absurd (by simp) ha
  next =>
    obtain rfl := h.trans (List.nil_append b)
    exact absurd (by simp) hb
  next =>
    rw [List.append_assoc, List.append_assoc] at h
    obtain ⟨huser, hrest⟩ := append_inj_of_stop (not_at_of_mem_userText hu) (not_at_of_mem_userText hv)
      (by simp) (by simp) h
    exact ⟨userText_injective hu hv huser, (List.cons.inj hrest).2⟩

/-! ## The whole -/

/-- The text between the scheme and the query. -/
def bodyText (u : Url) : List Char := (u.authorityText ++ u.path.text).toList

/-- A text is a scheme, a body, and a query and a fragment with their marks. -/
theorem toList_text (u : Url) :
    u.text.toList =
      u.scheme.toList ++ ':' :: (u.bodyText ++ (markedText '?' u.query ++ markedText '#' u.fragment)) := by
  unfold text bodyText
  cases u.query <;> cases u.fragment <;> simp [markedText]

/-- A character at which a host or a segment ends. -/
def isStop (c : Char) : Bool := c == '/' || endsPath c

/-- A host with the port behind it. -/
def hostText (h : Host) (port : Option Nat) : List Char := h.text.toList ++ markedText ':' (port.map toString)

/-- With a host a body begins with two slashes. -/
theorem bodyText_of_host {u : Url} {h : Host} {l : List String} (hh : u.host = some h)
    (hl : u.path = .segments l) :
    u.bodyText =
      '/' :: '/' :: (u.credentialsText.toList ++ hostText h u.port ++ l.flatMap fun s => '/' :: s.toList) := by
  unfold bodyText authorityText hostText
  rw [hh, hl, String.toList_append, toList_segmentsText]
  cases u.port <;> simp [markedText]

theorem toString_injective : Function.Injective (toString : Nat → String) := by
  intro m n h
  have hdigits := congrArg String.toList h
  exact Host.toDigits_injective (by simpa [toString] using hdigits)

/-- Characters that stand neither in a host nor in a port, brackets and colons set aside. -/
def hostEnds : List Char := ['@', '/', '?', '#']

/-- None of them comes out of an address or a number. -/
theorem hostEnds_plain {c : Char} (h : c ∈ hostEnds) :
    c ∈ delimiters ∧ c.isAlphanum = false ∧ c ∉ ['[', ']', ':'] := by
  have hall : ∀ c ∈ hostEnds, c ∈ delimiters ∧ c.isAlphanum = false ∧ c ∉ ['[', ']', ':'] :=
    Text.forall_of_all (by decide)
  exact hall c h

/-- None of them stands in a host. -/
theorem not_mem_text_of_hostEnds {special : Bool} {h : Host} (hw : h.IsWritten special) {c : Char}
    (hend : c ∈ hostEnds) : c ∉ h.text.toList := by
  obtain ⟨hdelimiter, hdigit, hother⟩ := hostEnds_plain hend
  intro hc
  rcases Host.text_cases hw with ⟨ps, rfl⟩ | hnone
  · -- Between the brackets there are only digits and colons.
    rw [Host.toList_text_ipv6, List.mem_cons, List.mem_append, List.mem_singleton] at hc
    rcases hc with rfl | hc | rfl
    · exact hother (by decide)
    · rcases Host.mem_ipv6Text hc with h | rfl
      · rw [h] at hdigit
        cases hdigit
      · exact hother (by decide)
    · exact hother (by decide)
  · exact hnone c hc hdelimiter

/-- None of them stands in a port. -/
theorem not_mem_portText_of_hostEnds {port : Option Nat} {c : Char} (hend : c ∈ hostEnds) :
    c ∉ markedText ':' (port.map toString) := by
  obtain ⟨-, hdigit, hother⟩ := hostEnds_plain hend
  intro hc
  cases port with
  | none => cases hc
  | some p =>
    rcases List.mem_cons.mp hc with rfl | hc
    · exact hother (by decide)
    · have hdigits : c ∈ Nat.toDigits 10 p := by simpa [toString] using hc
      have hnumber := Nat.isDigit_of_mem_toDigits (by decide) (by decide) hdigits
      simp [Char.isAlphanum, hnumber] at hdigit

/-- A host with its port ends where a path, a query or a fragment begins, and holds no sign of a name. -/
theorem plain_of_mem_hostText {special : Bool} {h : Host} (hw : h.IsWritten special) {port : Option Nat} :
    ∀ c ∈ hostText h port, c ≠ '@' ∧ isStop c = false := by
  intro c hc
  have hnone : c ∉ hostEnds := by
    intro hend
    rcases List.mem_append.mp hc with hc | hc
    · exact not_mem_text_of_hostEnds hw hend hc
    · exact not_mem_portText_of_hostEnds hend hc
  simp only [hostEnds, List.mem_cons, List.not_mem_nil, or_false, not_or] at hnone
  obtain ⟨hat, hslash, hquery, hfragment⟩ := hnone
  exact ⟨hat, by simp [isStop, endsPath, hslash, hquery, hfragment]⟩

/-- The path does not begin in a name or a password. -/
theorem not_stop_of_mem_credentials {u : Url} (hu : u.IsWritten) :
    ∀ c ∈ u.credentialsText.toList, isStop c = false := by
  -- Everything that ends a segment is a delimiter.
  have hstop : ∀ {c : Char}, c ∉ delimiters → isStop c = false := by
    intro c hc
    simp [isStop, endsPath, ne_of_not_delimiter hc (by decide : '/' ∈ delimiters),
      ne_of_not_delimiter hc (by decide : '?' ∈ delimiters),
      ne_of_not_delimiter hc (by decide : '#' ∈ delimiters)]
  intro c hc
  rw [toList_credentialsText] at hc
  split at hc
  · cases hc
  · rcases List.mem_append.mp hc with hc | hc
    · rcases List.mem_append.mp hc with hc | hc
      · exact hstop (hu.username c hc)
      · split at hc
        · cases hc
        · rcases List.mem_cons.mp hc with rfl | hc
          · decide
          · exact hstop (hu.password c hc)
    · obtain rfl := List.mem_singleton.mp hc
      decide

/-! ## Without a host -/

/-- Whether segments need a dot before them when there is no host. -/
def needsDot : List String → Bool
  | "" :: _ :: _ => true
  | _ => false

/-- Without a host a body is its segments, with a dot before them where they need one. -/
theorem bodyText_of_segments {u : Url} {l : List String} (hh : u.host = none) (hl : u.path = .segments l) :
    u.bodyText =
      (if needsDot l then ['/', '.'] else []) ++ l.flatMap fun s => '/' :: s.toList := by
  unfold bodyText authorityText
  rw [hh, hl, String.toList_append, toList_segmentsText]
  rcases l with _ | ⟨s, _ | ⟨t, r⟩⟩
  · rfl
  · by_cases hs : s = "" <;> simp [needsDot]
  · by_cases hs : s = "" <;> simp [needsDot, hs]

/-- A text that is neither host nor segments is the whole body. -/
theorem bodyText_of_opaqueText {u : Url} {s : String} (hh : u.host = none) (hs : u.path = .opaqueText s) :
    u.bodyText = s.toList := by
  unfold bodyText authorityText
  rw [hh, hs]
  simp [UrlPath.text]

/-- Without a host a text does not begin with two slashes. -/
theorem bodyText_ne_of_alone {u : Url} (hu : u.IsWritten) (hh : u.host = none) (l : List Char) :
    u.bodyText ≠ '/' :: '/' :: l := by
  have halone := (hu.alone hh).2.2.2
  intro h
  cases hp : u.path with
  | opaqueText s =>
    rw [hp] at halone
    rw [bodyText_of_opaqueText hh hp] at h
    exact halone (by rw [h]; rfl)
  | segments segments =>
    rw [bodyText_of_segments hh hp] at h
    have hsegments := hu.path
    rw [hp] at halone hsegments
    obtain ⟨s, r, rfl⟩ := List.exists_cons_of_ne_nil halone
    split at h
    · exact absurd (List.cons.inj (List.cons.inj h).2).1 (by decide)
    next hdot =>
      -- A first segment that is empty has a dot before it, unless it is the only one.
      rw [List.nil_append, List.flatMap_cons] at h
      cases hs : s.toList with
      | nil =>
        obtain rfl := String.toList_inj.mp (hs.trans String.toList_empty.symm)
        cases r with
        | nil => simp at h
        | cons t r => exact hdot rfl
      | cons c cs =>
        rw [hs] at h
        obtain rfl := (List.cons.inj (List.cons.inj h).2).1
        exact (hsegments s List.mem_cons_self).2.1 (hs ▸ List.mem_cons_self)

/-- The dot before a path is not taken for a segment. -/
theorem dotted_ne_segments {l m : List String} (hm : ∀ s ∈ m, IsSegment s) :
    ['/', '.'] ++ (l.flatMap fun s => '/' :: s.toList) ≠ m.flatMap fun s => '/' :: s.toList := by
  intro h
  cases m with
  | nil => cases h
  | cons t m =>
    have ht := hm t List.mem_cons_self
    have hdot : ∀ c ∈ ['.'], isStop c = false := Text.forall_of_all (by decide)
    obtain ⟨hsegment, -⟩ := append_inj_of_stop hdot ht.not_stop (stopsAt_segmentsText l)
      (stopsAt_segmentsText m) (List.cons.inj h).2
    exact ht.1 (String.toList_inj.mp hsegment.symm)

/-- Without a host a path of segments begins with a slash. -/
theorem head?_bodyText_of_segments {u : Url} {l : List String} (hu : u.IsWritten) (hh : u.host = none)
    (hl : u.path = .segments l) : u.bodyText.head? = some '/' := by
  have halone := (hu.alone hh).2.2.2
  rw [hl] at halone
  obtain ⟨s, r, rfl⟩ := List.exists_cons_of_ne_nil halone
  rw [bodyText_of_segments hh hl]
  split <;> rfl

/-- Any other text does not. -/
theorem head?_bodyText_of_opaqueText {u : Url} {s : String} (hu : u.IsWritten) (hh : u.host = none)
    (hs : u.path = .opaqueText s) : u.bodyText.head? ≠ some '/' := by
  have halone := (hu.alone hh).2.2.2
  rw [hs] at halone
  rwa [bodyText_of_opaqueText hh hs]

/-- Without a host segments are known by the body, whether there is a dot before them or not. -/
theorem segments_eq_of_bodyText {u v : Url} {l m : List String} (hu : u.IsWritten) (hv : v.IsWritten)
    (hhu : u.host = none) (hhv : v.host = none) (hl : u.path = .segments l) (hm : v.path = .segments m)
    (h : u.bodyText = v.bodyText) : l = m := by
  have hsegments := hu.path
  have hsegments' := hv.path
  rw [hl] at hsegments
  rw [hm] at hsegments'
  rw [bodyText_of_segments hhu hl, bodyText_of_segments hhv hm] at h
  split at h <;> split at h
  · exact segmentsText_injective hsegments hsegments' (List.append_cancel_left h)
  · exact absurd h (dotted_ne_segments hsegments')
  · exact absurd h.symm (dotted_ne_segments hsegments)
  · exact segmentsText_injective hsegments hsegments' h

/-- Without a host a path is known by its text. -/
theorem path_eq_of_alone {u v : Url} (hu : u.IsWritten) (hv : v.IsWritten) (hhu : u.host = none)
    (hhv : v.host = none) (h : u.bodyText = v.bodyText) : u.path = v.path := by
  cases hpu : u.path with
  | opaqueText s =>
    cases hpv : v.path with
    | opaqueText t =>
      rw [bodyText_of_opaqueText hhu hpu, bodyText_of_opaqueText hhv hpv] at h
      rw [String.toList_inj.mp h]
    | segments m =>
      have hslash := h ▸ head?_bodyText_of_segments hv hhv hpv
      exact absurd hslash (head?_bodyText_of_opaqueText hu hhu hpu)
  | segments l =>
    cases hpv : v.path with
    | opaqueText t =>
      have hslash := h ▸ head?_bodyText_of_segments hu hhu hpu
      exact absurd hslash (head?_bodyText_of_opaqueText hv hhv hpv)
    | segments m => rw [segments_eq_of_bodyText hu hv hhu hhv hpu hpv h]

/-! ## The whole -/

theorem not_endsPath_of_not_isStop {c : Char} (h : isStop c = false) : endsPath c = false :=
  (Bool.or_eq_false_iff.mp h).2

/-- Neither a query nor a fragment begins in the segments. -/
theorem not_endsPath_of_mem_segmentsText {l : List String} (hl : ∀ s ∈ l, IsSegment s) :
    ∀ c ∈ l.flatMap fun s => '/' :: s.toList, endsPath c = false := by
  intro c hc
  obtain ⟨s, hs, hc⟩ := List.mem_flatMap.mp hc
  rcases List.mem_cons.mp hc with rfl | hc
  · decide
  · exact not_endsPath_of_not_isStop ((hl s hs).not_stop c hc)

/-- Neither a query nor a fragment begins in the body. -/
theorem not_endsPath_of_mem_bodyText {u : Url} (hu : u.IsWritten) : ∀ c ∈ u.bodyText, endsPath c = false := by
  intro c hc
  have hpath := hu.path
  cases hh : u.host with
  | some h =>
    obtain ⟨hhost, l, hl⟩ := hu.host h hh
    rw [hl] at hpath
    rw [bodyText_of_host hh hl, List.mem_cons, List.mem_cons, List.mem_append, List.mem_append] at hc
    -- Two slashes, name and password, host and port, path.
    rcases hc with rfl | rfl | (hc | hc) | hc
    · decide
    · decide
    · exact not_endsPath_of_not_isStop (not_stop_of_mem_credentials hu c hc)
    · exact not_endsPath_of_not_isStop (plain_of_mem_hostText hhost c hc).2
    · exact not_endsPath_of_mem_segmentsText hpath c hc
  | none =>
    cases hp : u.path with
    | opaqueText s =>
      rw [hp] at hpath
      rw [bodyText_of_opaqueText hh hp] at hc
      have hquery : c ≠ '?' := fun h => hpath.1 (h ▸ hc)
      have hfragment : c ≠ '#' := fun h => hpath.2 (h ▸ hc)
      simp [endsPath, hquery, hfragment]
    | segments l =>
      rw [hp] at hpath
      rw [bodyText_of_segments hh hp, List.mem_append] at hc
      rcases hc with hc | hc
      · split at hc
        · rcases List.mem_cons.mp hc with rfl | hc
          · decide
          · obtain rfl := List.mem_singleton.mp hc
            decide
        · cases hc
      · exact not_endsPath_of_mem_segmentsText hpath c hc

/-- With a host everything in the body is known from it, as long as the schemes ask the same of a host. -/
theorem eq_of_bodyText_eq_of_host {u v : Url} {g k : Host} (hu : u.IsWritten) (hv : v.IsWritten)
    (hscheme : u.scheme = v.scheme) (hhu : u.host = some g) (hhv : v.host = some k)
    (h : u.bodyText = v.bodyText) :
    (u.username = v.username ∧ u.password = v.password) ∧ g = k ∧ u.port = v.port ∧ u.path = v.path := by
  obtain ⟨hg, l, hl⟩ := hu.host g hhu
  obtain ⟨hk, m, hm⟩ := hv.host k hhv
  have hstop : ∀ {w : Url} {h : Host}, w.IsWritten → h.IsWritten (isSpecial w.scheme) →
      ∀ c ∈ w.credentialsText.toList ++ hostText h w.port, isStop c = false := by
    intro w h hw hh c hc
    rcases List.mem_append.mp hc with hc | hc
    · exact not_stop_of_mem_credentials hw c hc
    · exact (plain_of_mem_hostText hh c hc).2
  -- The path begins at the first slash behind the two, the host behind the sign of a name.
  rw [bodyText_of_host hhu hl, bodyText_of_host hhv hm] at h
  obtain ⟨hauthority, hpath⟩ := append_inj_of_stop (hstop hu hg) (hstop hv hk) (stopsAt_segmentsText l)
    (stopsAt_segmentsText m) (List.cons.inj (List.cons.inj h).2).2
  obtain ⟨huser, hhost⟩ := credentialsText_append_injective hu hv
    (fun hc => (plain_of_mem_hostText hg _ hc).1 rfl) (fun hc => (plain_of_mem_hostText hk _ hc).1 rfl)
    hauthority
  rw [← hscheme] at hk
  obtain ⟨hhosts, hport⟩ := Host.text_append_injective hg hk (stopsAt_markedText (by decide) _)
    (stopsAt_markedText (by decide) _) hhost
  have hpu := hu.path
  have hpv := hv.path
  rw [hl] at hpu
  rw [hm] at hpv
  refine ⟨huser, hhosts, ?_, ?_⟩
  · exact Option.map_injective toString_injective (markedText_injective hport)
  · rw [hl, hm, segmentsText_injective hpu hpv hpath]

/-- Everything in the body is known from it. -/
theorem eq_of_bodyText_eq {u v : Url} (hu : u.IsWritten) (hv : v.IsWritten) (hscheme : u.scheme = v.scheme)
    (h : u.bodyText = v.bodyText) :
    u.username = v.username ∧ u.password = v.password ∧ u.host = v.host ∧ u.port = v.port ∧ u.path = v.path := by
  -- A body with a host begins with two slashes, and one without does not.
  cases hhu : u.host with
  | none =>
    cases hhv : v.host with
    | none =>
      obtain ⟨hu1, hu2, hu3, -⟩ := hu.alone hhu
      obtain ⟨hv1, hv2, hv3, -⟩ := hv.alone hhv
      exact ⟨hu1.trans hv1.symm, hu2.trans hv2.symm, rfl, hu3.trans hv3.symm, path_eq_of_alone hu hv hhu hhv h⟩
    | some k =>
      obtain ⟨l, hl⟩ := (hv.host k hhv).2
      rw [bodyText_of_host hhv hl] at h
      exact absurd h (bodyText_ne_of_alone hu hhu _)
  | some g =>
    cases hhv : v.host with
    | none =>
      obtain ⟨l, hl⟩ := (hu.host g hhu).2
      rw [bodyText_of_host hhu hl] at h
      exact absurd h.symm (bodyText_ne_of_alone hv hhv _)
    | some k =>
      obtain ⟨⟨huser, hpassword⟩, rfl, hport, hpath⟩ := eq_of_bodyText_eq_of_host hu hv hscheme hhu hhv h
      exact ⟨huser, hpassword, rfl, hport, hpath⟩

/-- URLs in written form with the same text are equal. -/
theorem IsWritten.eq_of_text_eq {u v : Url} (hu : u.IsWritten) (hv : v.IsWritten) (h : u.text = v.text) :
    u = v := by
  have hcolon : ∀ {w : Url}, w.IsWritten → ∀ c ∈ w.scheme.toList, (c == ':') = false :=
    fun hw c hc => Text.beq_eq_false_of_not_mem hw.scheme hc
  have hquery : ∀ {w : Url}, w.IsWritten → ∀ c ∈ markedText '?' w.query, (c == '#') = false := by
    intro w hw c hc
    refine Text.beq_eq_false_of_not_mem (fun hmem => ?_) hc
    cases hq : w.query with
    | none => simp [hq, markedText] at hmem
    | some q => simp [hq, markedText, hw.query q hq] at hmem
  -- The scheme ends at the first colon, the body where a query or a fragment begins.
  have hlist := congrArg String.toList h
  rw [toList_text, toList_text] at hlist
  obtain ⟨hscheme, hrest⟩ := append_inj_of_stop (hcolon hu) (hcolon hv) (by simp) (by simp) hlist
  have hstops : ∀ w : Url, StopsAt endsPath (markedText '?' w.query ++ markedText '#' w.fragment) := by
    intro w
    cases w.query <;> cases w.fragment <;> simp [markedText, endsPath]
  obtain ⟨hbody, htail⟩ := append_inj_of_stop (not_endsPath_of_mem_bodyText hu)
    (not_endsPath_of_mem_bodyText hv) (hstops u) (hstops v) (List.cons.inj hrest).2
  obtain ⟨hq, hf⟩ := append_inj_of_stop (hquery hu) (hquery hv) (stopsAt_markedText (by decide) _)
    (stopsAt_markedText (by decide) _) htail
  have hscheme := String.toList_inj.mp hscheme
  obtain ⟨h1, h2, h3, h4, h5⟩ := eq_of_bodyText_eq hu hv hscheme hbody
  have hquery := markedText_injective hq
  have hfragment := markedText_injective hf
  cases u
  cases v
  simp_all

/-- Two URLs that were read and have the same text are equal. -/
theorem eq_of_text_eq {s t : String} {u v : Url} (hu : parse s = .ok u) (hv : parse t = .ok v)
    (h : u.text = v.text) : u = v :=
  (isWritten_of_parse hu).eq_of_text_eq (isWritten_of_parse hv) h

end Url

end LinkEmbed
