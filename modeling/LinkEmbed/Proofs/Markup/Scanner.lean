import LinkEmbed.Proofs.Markup.Skeleton

/-!
# Finding a skeleton

A scanner that finds the skeleton of a text character by character. It takes a start tag whose name begins like a
comment for a comment.

* `Skeleton.SpellsStart.inStart` — behind a start tag the scanner knows its name and those of its attributes.
* `Skeleton.Spells.scan_eq` — where no start tag begins like a comment, it finds what the grammar says.
* `Skeleton.Spells.unique` — so no other skeleton without such tags is spelled the same.
-/

namespace LinkEmbed

namespace Skeleton

/-! ## Scanning -/

/-- Where a scanner stands. A name or comment that has not ended yet comes with what was read of it. -/
inductive Mode where
  /-- Character data. -/
  | data
  /-- The name of a start tag. -/
  | name (read : List Char)
  /-- The name of an end tag. -/
  | closing (read : List Char)
  /-- The name of an attribute. -/
  | attribute (tag : String) (names : List String) (read : List Char)
  /-- Behind the equals sign of an attribute. -/
  | equals (tag : String) (names : List String)
  /-- Inside quotation marks. -/
  | value (tag : String) (names : List String)
  /-- Behind quotation marks. -/
  | behindValue (tag : String) (names : List String)
  /-- Behind the slash of a tag that closes itself. -/
  | slash (tag : String) (names : List String)
  | comment (read : List Char)
  /-- The text is no markup. -/
  | lost

/-- A scanner: the tags found so far, and where it stands. -/
structure Scanner where
  tags : List Tag := []
  mode : Mode := .data

namespace Scanner

/-- A tag or comment ends. -/
def found (s : Scanner) (t : Tag) : Scanner := ⟨s.tags ++ [t], .data⟩

/-- A character inside a start tag, where the tag may end and an attribute may begin. -/
def inStart (s : Scanner) (tag : String) (names : List String) (c : Char) (otherwise : Mode) : Scanner :=
  if c = '>' then s.found (.opening tag names)
  else if c = ' ' then ⟨s.tags, .attribute tag names []⟩
  else ⟨s.tags, otherwise⟩

end Scanner

/-- Read one character. -/
def step (s : Scanner) (c : Char) : Scanner :=
  match s.mode with
  | .data => if c = '<' then ⟨s.tags, .name []⟩ else s
  | .name read =>
    if c = '/' ∧ read = [] then ⟨s.tags, .closing []⟩
    else if c = '-' ∧ read = ['!', '-'] then ⟨s.tags, .comment []⟩
    else s.inStart (String.ofList read) [] c (.name (read ++ [c]))
  | .closing read =>
    if c = '>' then s.found (.closing (String.ofList read)) else ⟨s.tags, .closing (read ++ [c])⟩
  | .attribute tag names read =>
    if c = '/' ∧ read = [] then ⟨s.tags, .slash tag names⟩
    else if c = '=' then ⟨s.tags, .equals tag (names ++ [String.ofList read])⟩
    else s.inStart tag (names ++ [String.ofList read]) c (.attribute tag names (read ++ [c]))
  | .equals tag names => if c = '"' then ⟨s.tags, .value tag names⟩ else ⟨s.tags, .lost⟩
  | .value tag names => if c = '"' then ⟨s.tags, .behindValue tag names⟩ else s
  | .behindValue tag names => s.inStart tag names c .lost
  | .slash tag names => if c = '>' then s.found (.opening tag names) else ⟨s.tags, .lost⟩
  | .comment read =>
    if c = '>' ∧ "--".toList <:+ read then s.found (.comment (String.ofList read.dropLast.dropLast))
    else ⟨s.tags, .comment (read ++ [c])⟩
  | .lost => s

/-- Read a list of characters. -/
def scan (s : Scanner) (cs : List Char) : Scanner := cs.foldl step s

theorem scan_cons (s : Scanner) (c : Char) (r : List Char) : scan s (c :: r) = scan (step s c) r := rfl

theorem scan_append (s : Scanner) (a b : List Char) : scan s (a ++ b) = scan (scan s a) b := List.foldl_append

end Skeleton

/-- The skeleton of a text, unless the text ends inside a tag or a comment. -/
def skeleton (s : String) : Option (List Skeleton.Tag) :=
  match Skeleton.scan {} s.toList with
  | ⟨tags, .data⟩ => some tags
  | _ => none

example : skeleton "<p class=\"a>b\">1 > 2<br /></p>" =
    some [.opening "p" ["class"], .opening "br" [], .closing "p"] := by decide

namespace Skeleton

theorem ne_of_isNameChar {c : Char} (h : Reader.isNameChar c = true) : c ≠ '/' ∧ c ≠ '=' ∧ c ≠ '>' ∧ c ≠ ' ' := by
  refine ⟨?_, ?_, ?_, ?_⟩ <;> (rintro rfl; revert h; decide)

/-- A value goes on as long as no quotation mark comes. -/
theorem scan_value {cs : List Char} (h : ∀ c ∈ cs, c ≠ '"') (ts : List Tag) (tag : String) (names : List String) :
    scan ⟨ts, .value tag names⟩ cs = ⟨ts, .value tag names⟩ := by
  induction cs with
  | nil => rfl
  | cons c r ih =>
    have hstep : step ⟨ts, .value tag names⟩ c = ⟨ts, .value tag names⟩ := if_neg (h c List.mem_cons_self)
    have hr := ih fun d hd => h d (List.mem_cons_of_mem c hd)
    rw [scan_cons, hstep, hr]

/-- A name goes on, and does not turn into a comment on the way. -/
theorem scan_name {cs : List Char} (h : ∀ c ∈ cs, Reader.isNameChar c = true) (ts : List Tag) (read : List Char)
    (hread : ¬ "!--".toList <+: read ++ cs) : scan ⟨ts, .name read⟩ cs = ⟨ts, .name (read ++ cs)⟩ := by
  induction cs generalizing read with
  | nil => rw [List.append_nil]; rfl
  | cons c r ih =>
    obtain ⟨hslash, -, hclose, hblank⟩ := ne_of_isNameChar (h c List.mem_cons_self)
    have hmark : ¬ (c = '-' ∧ read = ['!', '-']) := by
      rintro ⟨rfl, rfl⟩
      exact hread ⟨r, rfl⟩
    have hstep : step ⟨ts, .name read⟩ c = ⟨ts, .name (read ++ [c])⟩ := by
      simp [step, Scanner.inStart, hslash, hmark, hclose, hblank]
    have hr := ih (fun d hd => h d (List.mem_cons_of_mem c hd)) (read ++ [c]) (by simpa using hread)
    rw [scan_cons, hstep, hr, List.append_assoc]
    rfl

/-- So does the name of an attribute. -/
theorem scan_attribute {cs : List Char} (h : ∀ c ∈ cs, Reader.isNameChar c = true) (ts : List Tag) (tag : String)
    (names : List String) (read : List Char) :
    scan ⟨ts, .attribute tag names read⟩ cs = ⟨ts, .attribute tag names (read ++ cs)⟩ := by
  induction cs generalizing read with
  | nil => rw [List.append_nil]; rfl
  | cons c r ih =>
    obtain ⟨hslash, hequals, hclose, hblank⟩ := ne_of_isNameChar (h c List.mem_cons_self)
    have hstep : step ⟨ts, .attribute tag names read⟩ c = ⟨ts, .attribute tag names (read ++ [c])⟩ := by
      simp [step, Scanner.inStart, hslash, hequals, hclose, hblank]
    have hr := ih (fun d hd => h d (List.mem_cons_of_mem c hd)) (read ++ [c])
    rw [scan_cons, hstep, hr, List.append_assoc]
    rfl

/-- So does that of an end tag. -/
theorem scan_closing {cs : List Char} (h : ∀ c ∈ cs, Reader.isNameChar c = true) (ts : List Tag)
    (read : List Char) : scan ⟨ts, .closing read⟩ cs = ⟨ts, .closing (read ++ cs)⟩ := by
  induction cs generalizing read with
  | nil => rw [List.append_nil]; rfl
  | cons c r ih =>
    obtain ⟨-, -, hclose, -⟩ := ne_of_isNameChar (h c List.mem_cons_self)
    have hstep : step ⟨ts, .closing read⟩ c = ⟨ts, .closing (read ++ [c])⟩ := if_neg hclose
    have hr := ih (fun d hd => h d (List.mem_cons_of_mem c hd)) (read ++ [c])
    rw [scan_cons, hstep, hr, List.append_assoc]
    rfl

/-- A comment goes on as long as its end does not come. -/
theorem scan_inComment {cs : List Char} (ts : List Tag) (read : List Char)
    (h : ¬ "-->".toList <:+: read ++ cs) :
    scan ⟨ts, .comment read⟩ cs = ⟨ts, .comment (read ++ cs)⟩ := by
  induction cs generalizing read with
  | nil => rw [List.append_nil]; rfl
  | cons c r ih =>
    have hend : ¬ (c = '>' ∧ "--".toList <:+ read) := by
      rintro ⟨rfl, before, rfl⟩
      exact h ⟨before, r, by simp⟩
    have hstep : step ⟨ts, .comment read⟩ c = ⟨ts, .comment (read ++ [c])⟩ := if_neg hend
    have hr := ih (read ++ [c]) (by simpa using h)
    rw [scan_cons, hstep, hr, List.append_assoc]
    rfl

/-! ## Start tags -/

/-- The start tag that a scanner is in, where the tag could end. -/
def Mode.start? : Mode → Option (String × List String)
  | .name read => some (String.ofList read, [])
  | .attribute tag names read => some (tag, names ++ [String.ofList read])
  | .behindValue tag names => some (tag, names)
  | _ => none

/-- A scanner inside a start tag that could end here. -/
structure InStart (ts : List Tag) (tag : String) (names : List String) (s : Scanner) : Prop where
  tags : s.tags = ts
  start : s.mode.start? = some (tag, names)

namespace InStart

variable {ts : List Tag} {tag : String} {names : List String} {s : Scanner}

/-- A bracket ends the tag. -/
theorem close (h : InStart ts tag names s) : step s '>' = ⟨ts ++ [.opening tag names], .data⟩ := by
  obtain ⟨tags, mode⟩ := s
  obtain ⟨rfl, hstart⟩ := h
  cases mode <;> cases hstart <;> simp [step, Scanner.inStart, Scanner.found]

/-- A blank begins an attribute. -/
theorem blank (h : InStart ts tag names s) : step s ' ' = ⟨ts, .attribute tag names []⟩ := by
  obtain ⟨tags, mode⟩ := s
  obtain ⟨rfl, hstart⟩ := h
  cases mode <;> cases hstart <;> simp [step, Scanner.inStart]

/-- The tag ends in either style. -/
theorem closeVoid (h : InStart ts tag names s) (style : RenderStyle) :
    scan s (Render.closeVoid style) = ⟨ts ++ [.opening tag names], .data⟩ := by
  unfold Render.closeVoid
  split
  · rw [scan_cons, h.blank]
    rfl
  · rw [scan_cons, h.close]
    rfl

/-- An attribute adds its name, whatever its value. -/
theorem oneAttribute (h : InStart ts tag names s) {k : String} (hk : IsPlain k) {cs : List Char}
    (hcs : SpellsAttribute k cs) : InStart ts tag (names ++ [k]) (scan s cs) := by
  have hname : ∀ c ∈ k.toList, Reader.isNameChar c = true := List.all_eq_true.mp hk
  cases hcs with
  | bare =>
    rw [scan_cons, h.blank, scan_attribute hname]
    exact ⟨rfl, by simp [Mode.start?]⟩
  | @quoted value hvalue =>
    -- Behind the name an equals sign and a quote lead into the value, and the closing quote out of it.
    have hequals : step ⟨ts, .attribute tag names k.toList⟩ '=' = ⟨ts, .equals tag (names ++ [k])⟩ := by
      simp [step]
    have hquote : step ⟨ts, .equals tag (names ++ [k])⟩ '"' = ⟨ts, .value tag (names ++ [k])⟩ := rfl
    have hscan : scan ⟨ts, .attribute tag names k.toList⟩ ('=' :: '"' :: value) =
        ⟨ts, .value tag (names ++ [k])⟩ := by
      rw [scan_cons, hequals, scan_cons, hquote]
      exact scan_value hvalue ts tag (names ++ [k])
    rw [List.cons_append, List.cons_append, scan_cons, h.blank, scan_append, scan_append, scan_attribute hname,
      List.nil_append, hscan]
    exact ⟨rfl, rfl⟩

end InStart

/-- A spelled start tag takes the scanner inside the tag, with its name and those of its attributes. -/
theorem SpellsStart.inStart {tag : String} {cs : List Char} {names : List String} (h : SpellsStart tag cs names)
    (hclear : ¬ "!--".toList <+: tag.toList) (ts : List Tag) : InStart ts tag names (scan ⟨ts, .data⟩ cs) := by
  induction h with
  | name htag =>
    have hname : scan ⟨ts, .name []⟩ tag.toList = ⟨ts, .name tag.toList⟩ :=
      scan_name (List.all_eq_true.mp htag) ts [] hclear
    have hopen : scan ⟨ts, .data⟩ ('<' :: tag.toList) = ⟨ts, .name tag.toList⟩ := hname
    rw [hopen]
    exact ⟨rfl, by simp [Mode.start?]⟩
  | more _ hk hattribute ih =>
    rw [scan_append]
    exact ih.oneAttribute hk hattribute

/-! ## Whole texts -/

/-- A tag that cannot be taken for a comment. -/
def Tag.IsClear : Tag → Prop
  | .opening name _ => ¬ "!--".toList <+: name.toList
  | _ => True

instance : DecidablePred Tag.IsClear
  | .opening name _ => inferInstanceAs (Decidable (¬ "!--".toList <+: name.toList))
  | .closing _ | .comment _ => inferInstanceAs (Decidable True)

/-- An end tag is found. -/
theorem scan_closeTag {tag : String} (htag : IsPlain tag) (ts : List Tag) :
    scan ⟨ts, .data⟩ (Render.closeTag tag) = ⟨ts ++ [.closing tag], .data⟩ := by
  have hname : scan ⟨ts, .data⟩ ('<' :: '/' :: tag.toList) = ⟨ts, .closing tag.toList⟩ :=
    scan_closing (List.all_eq_true.mp htag) ts []
  have hclose : scan ⟨ts, .closing tag.toList⟩ ['>'] = ⟨ts ++ [.closing tag], .data⟩ := by
    simp [scan, step, Scanner.found]
  rw [Render.closeTag, scan_append, hname, hclose]

/-- So is a comment. -/
theorem scan_comment {s : String} (h : ¬ "-->".toList <:+: s.toList) (ts : List Tag) :
    scan ⟨ts, .data⟩ ("<!--".toList ++ s.toList ++ "-->".toList) = ⟨ts ++ [.comment s], .data⟩ := by
  have hopen : scan ⟨ts, .data⟩ "<!--".toList = ⟨ts, .comment []⟩ := rfl
  have htext : scan ⟨ts, .comment []⟩ s.toList = ⟨ts, .comment s.toList⟩ := scan_inComment ts [] h
  have hclose : scan ⟨ts, .comment s.toList⟩ "-->".toList = ⟨ts ++ [.comment s], .data⟩ := by
    simp [scan, step, Scanner.found]
  rw [scan_append, scan_append, hopen, htext, hclose]

/-- The scanner finds what is spelled, and is in character data again. -/
theorem Spells.scan_eq {cs : List Char} {us : List Tag} (h : Spells cs us) (hclear : ∀ u ∈ us, u.IsClear)
    (ts : List Tag) : scan ⟨ts, .data⟩ cs = ⟨ts ++ us, .data⟩ := by
  -- The induction is on how the text is spelled; each piece of it leads back to character data.
  induction h generalizing ts with
  | nil =>
    rw [List.append_nil]
    rfl
  | data hc _ ih =>
    have hstep : step ⟨ts, .data⟩ _ = ⟨ts, .data⟩ := if_neg hc
    rw [scan_cons, hstep, ih hclear]
  | opening style hstart _ ih =>
    obtain ⟨hfirst, hrest⟩ := List.forall_mem_cons.mp hclear
    rw [scan_append, scan_append, (hstart.inStart hfirst ts).closeVoid, ih hrest, List.append_assoc]
    rfl
  | closing htag _ ih =>
    rw [scan_append, scan_closeTag htag, ih (List.forall_mem_cons.mp hclear).2, List.append_assoc]
    rfl
  | comment hs _ ih =>
    rw [scan_append, scan_comment hs, ih (List.forall_mem_cons.mp hclear).2, List.append_assoc]
    rfl

/-- What a text spells is its skeleton. -/
theorem Spells.skeleton_eq {cs : List Char} {us : List Tag} (h : Spells cs us) (hclear : ∀ u ∈ us, u.IsClear) :
    skeleton (String.ofList cs) = some us := by
  rw [skeleton, String.toList_ofList, h.scan_eq hclear []]
  rfl

/-- A text spells one skeleton at most. -/
theorem Spells.unique {cs : List Char} {us vs : List Tag} (hu : Spells cs us) (hv : Spells cs vs)
    (hus : ∀ u ∈ us, u.IsClear) (hvs : ∀ v ∈ vs, v.IsClear) : us = vs :=
  Option.some.inj ((hu.skeleton_eq hus).symm.trans (hv.skeleton_eq hvs))

end Skeleton

end LinkEmbed
