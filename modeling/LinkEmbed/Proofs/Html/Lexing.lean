import LinkEmbed.Html.Lexer
import LinkEmbed.Markup.Render
import Mathlib.Algebra.BigOperators.Group.List.Basic
import Mathlib.Data.List.Infix

/-!
# Written markup as tokens

What the lexer makes of markup that was written. Each piece is cut off the same way whatever stands behind it.

* `Lexer.next_escapeTextChar` — a character of text, which may be written as a reference, is one token.
* `Lexer.readAttributes_attributeTexts`, `Lexer.next_startTag`, `Lexer.next_closeTag` — tags are one token each, with
  their attributes as they were before they were written.
* `Lexer.next_comment` — a comment that cannot end too early is one token.
* `Lexer.next_rawChar`, `Lexer.next_script`, `Lexer.next_rawEnd` — text that is taken as it is comes without
  references, so there what was escaped stays escaped.
-/

namespace LinkEmbed.Html

open Render (escapeTextChar escapeText escapeValueChar escapeValue)

/-! ## Names and texts that the lexer leaves as they are -/

/-- A character of a name. -/
def isNameChar (c : Char) : Bool := !Lexer.endsName c && c != '=' && c != '\r' && Lexer.lower c == c

/-- The name of an attribute. -/
structure IsAttributeName (s : String) : Prop where
  nonempty : s ≠ ""
  chars : s.toList.all isNameChar

/-- The name of an element, which begins with a letter. -/
structure IsElementName (s : String) : Prop where
  letter : s.toList.head?.any Char.isAlpha
  chars : s.toList.all isNameChar

instance : DecidablePred IsAttributeName := fun s =>
  decidable_of_iff (s ≠ "" ∧ s.toList.all isNameChar) ⟨fun h => ⟨h.1, h.2⟩, fun h => ⟨h.1, h.2⟩⟩

instance : DecidablePred IsElementName := fun s =>
  decidable_of_iff (s.toList.head?.any Char.isAlpha ∧ s.toList.all isNameChar)
    ⟨fun h => ⟨h.1, h.2⟩, fun h => ⟨h.1, h.2⟩⟩

/-- A text without the null character, which is replaced, and without carriage returns, which end lines. -/
def IsClean (s : String) : Prop := ∀ c ∈ s.toList, c ≠ '\x00' ∧ c ≠ '\r'

instance : DecidablePred IsClean := fun s => List.decidableBAll (fun c => c ≠ '\x00' ∧ c ≠ '\r') s.toList

/-- A character of a name neither ends it nor is changed by reading. -/
theorem isNameChar_iff {c : Char} :
    isNameChar c = true ↔ Lexer.endsName c = false ∧ c ≠ '=' ∧ c ≠ '\r' ∧ Lexer.lower c = c := by
  simp [isNameChar, and_assoc]

/-- A name up to the character that ends it. -/
theorem name_append {s : List Char} (h : s.all isNameChar) {stop : Char → Bool}
    (hstop : ∀ c, isNameChar c → stop c = false) {r : List Char} (hr : ∀ c ∈ r.head?, stop c = true) :
    ((s ++ r).takeWhile fun c => !stop c).map Lexer.lower = s ∧ ((s ++ r).dropWhile fun c => !stop c) = r := by
  have hgoes : ∀ c ∈ s, (!stop c) = true := by
    intro c hc
    rw [hstop c (List.all_eq_true.mp h c hc)]
    rfl
  have hends : r.takeWhile (fun c => !stop c) = [] ∧ r.dropWhile (fun c => !stop c) = r := by
    cases r with
    | nil => exact ⟨rfl, rfl⟩
    | cons c r => simp [hr c rfl]
  have hlower : s.map Lexer.lower = s := by
    refine (List.map_congr_left fun c hc => ?_).trans (List.map_id s)
    exact (isNameChar_iff.mp (List.all_eq_true.mp h c hc)).2.2.2
  rw [List.takeWhile_append_of_pos hgoes, List.dropWhile_append_of_pos hgoes, hends.1, hends.2, List.append_nil]
  exact ⟨hlower, rfl⟩

namespace Lexer

theorem visible_of_ne {c : Char} (h : c ≠ '\x00') : visible c = c := if_neg h

/-! ## References -/

theorem reference_amp (inAttribute : Bool) (r : List Char) :
    reference inAttribute ('a' :: 'm' :: 'p' :: ';' :: r) = (['&'], r) := by
  cases inAttribute <;> rfl

theorem reference_lt (inAttribute : Bool) (r : List Char) :
    reference inAttribute ('l' :: 't' :: ';' :: r) = (['<'], r) := by
  cases inAttribute <;> rfl

theorem reference_gt (inAttribute : Bool) (r : List Char) :
    reference inAttribute ('g' :: 't' :: ';' :: r) = (['>'], r) := by
  cases inAttribute <;> rfl

theorem reference_quot (inAttribute : Bool) (r : List Char) :
    reference inAttribute ('q' :: 'u' :: 'o' :: 't' :: ';' :: r) = (['"'], r) := by
  cases inAttribute <;> rfl

theorem next_reference (sections : Bool) {cs r : List Char} {c : Char} (h : reference false cs = ([c], r)) :
    next .markup sections ('&' :: cs) = ([.char c], r) := by
  simp [next, h]

/-- A character of text is one token. -/
theorem next_escapeTextChar (sections : Bool) (c : Char) (r : List Char) :
    next .markup sections (escapeTextChar c ++ r) = ([.char c], r) := by
  unfold escapeTextChar
  split
  · exact next_reference sections (reference_amp false r)
  · exact next_reference sections (reference_lt false r)
  · exact next_reference sections (reference_gt false r)
  next hamp hlt _ =>
    have hlt' : c ≠ '<' := hlt
    have hamp' : c ≠ '&' := hamp
    simp [next, hlt', hamp']

theorem decodeValue_reference {more : Nat} {cs chars r : List Char} (h : reference true cs = (chars, r)) :
    decodeValue (more + 1) ('&' :: cs) = chars ++ decodeValue more r := by
  rw [decodeValue, h]

/-- A character of a value is read back from how it is written. -/
theorem decodeValue_escapeValueChar {c : Char} (hc : c ≠ '\x00') (more : Nat) (r : List Char) :
    decodeValue (more + 1) (escapeValueChar c ++ r) = c :: decodeValue more r := by
  unfold escapeValueChar
  split
  · exact decodeValue_reference (reference_quot true r)
  next hquote =>
    unfold escapeTextChar
    split
    · exact decodeValue_reference (reference_amp true r)
    · exact decodeValue_reference (reference_lt true r)
    · exact decodeValue_reference (reference_gt true r)
    next hamp hlt hgt =>
      rw [List.singleton_append, decodeValue, visible_of_ne hc]
      exact hamp

/-- So is the whole value, however many characters it has room for. -/
theorem decodeValue_escapeValue {cs : List Char} (h : ∀ c ∈ cs, c ≠ '\x00') {more : Nat} (hmore : cs.length ≤ more) :
    decodeValue more (cs.flatMap escapeValueChar) = cs := by
  induction cs generalizing more with
  | nil => cases more <;> rfl
  | cons c cs ih =>
    obtain ⟨more, rfl⟩ := Nat.exists_eq_succ_of_ne_zero (Nat.ne_of_gt (Nat.lt_of_lt_of_le (Nat.succ_pos _) hmore))
    have hrest := ih (fun d hd => h d (List.mem_cons_of_mem c hd)) (Nat.le_of_succ_le_succ hmore)
    rw [List.flatMap_cons, Nat.succ_eq_add_one, decodeValue_escapeValueChar (h c List.mem_cons_self), hrest]

/-! ## Tags -/

/-- Something is written for each item, so there are at least as many characters. -/
theorem length_le_flatMap {α β : Type} {f : α → List β} (hf : ∀ a, f a ≠ []) (as : List α) :
    as.length ≤ (as.flatMap f).length := by
  rw [List.length_flatMap, ← List.length_map (fun a => (f a).length)]
  refine List.length_le_sum_of_one_le _ ?_
  intro n hn
  obtain ⟨a, -, rfl⟩ := List.mem_map.mp hn
  exact List.length_pos_iff.mpr (hf a)

/-- A value ends at its quote, as it has none inside. -/
theorem readValue_escapeValue {s : String} (h : IsClean s) (r : List Char) :
    readValue ('"' :: (escapeValue s ++ '"' :: r)) = some (s, r) := by
  have hall : ∀ c ∈ escapeValue s, (c != '"') = true := fun c hc => bne_iff_ne.mpr (Render.mem_escapeValue hc)
  have hdecode : decodeValue (escapeValue s).length (escapeValue s) = s.toList :=
    decodeValue_escapeValue (fun c hc => (h c hc).1) (length_le_flatMap Render.escapeValueChar_ne_nil s.toList)
  have hblank : ('"' :: (escapeValue s ++ '"' :: r)).dropWhile isBlank = '"' :: (escapeValue s ++ '"' :: r) := rfl
  unfold readValue
  simp only [hblank]
  rw [List.dropWhile_append_of_pos hall, List.takeWhile_append_of_pos hall]
  simp [hdecode]

/-- An attribute as it is written. -/
def attributeText (a : String × String) : List Char :=
  ' ' :: a.1.toList ++ '=' :: '"' :: escapeValue a.2 ++ ['"']

/-- A name has a first character, which is one of a name. -/
theorem IsAttributeName.toList_eq {s : String} (h : IsAttributeName s) :
    ∃ c r, s.toList = c :: r ∧ isNameChar c = true := by
  cases hs : s.toList with
  | nil => exact absurd (String.toList_eq_nil_iff.mp hs) h.nonempty
  | cons c r => exact ⟨c, r, rfl, List.all_eq_true.mp h.chars c (hs ▸ List.mem_cons_self)⟩

/-- One attribute is read back, and counts if it is the first of its name. -/
theorem readAttributes_attributeText {a : String × String} (hname : IsAttributeName a.1) (hvalue : IsClean a.2)
    (more : Nat) (found : List (String × String)) (r : List Char) :
    readAttributes (more + 1) found (attributeText a ++ r) = readAttributes more (addAttribute a.1 a.2 found) r := by
  obtain ⟨c, cs, hcs, hc⟩ := IsAttributeName.toList_eq hname
  have hfirst := isNameChar_iff.mp hc
  have hstop : ∀ d, isNameChar d → (endsName d || d == '=') = false := by
    intro d hd
    obtain ⟨hends, hequals, -⟩ := isNameChar_iff.mp hd
    simp [hends, hequals]
  have hchars : cs.all isNameChar := by
    have hall := hname.chars
    rw [hcs, List.all_cons, Bool.and_eq_true] at hall
    exact hall.2
  obtain ⟨htake, hdrop⟩ := name_append hchars hstop (r := '=' :: '"' :: (escapeValue a.2 ++ '"' :: r)) (by simp)
  have hblank : (attributeText a ++ r).dropWhile isBlank = c :: (cs ++ '=' :: '"' :: (escapeValue a.2 ++ '"' :: r)) := by
    have hc' : isBlank c = false := (Bool.or_eq_false_iff.mp (Bool.or_eq_false_iff.mp hfirst.1).1).1
    have htext : attributeText a ++ r = ' ' :: c :: (cs ++ '=' :: '"' :: (escapeValue a.2 ++ '"' :: r)) := by
      simp [attributeText, hcs]
    rw [htext, List.dropWhile_cons_of_pos rfl, List.dropWhile_cons_of_neg (by simp [hc'])]
  -- Neither the end of the tag nor a stray slash is at the start of a name.
  have hne : c ≠ '>' ∧ c ≠ '/' := by
    constructor <;> (rintro rfl; cases hfirst.1)
  rw [readAttributes]
  simp only [hblank]
  split
  next heq => cases heq
  next heq => exact absurd (List.cons.inj heq).1 hne.1
  next heq => exact absurd (List.cons.inj heq).1 hne.2
  next heq => exact absurd (List.cons.inj heq).1 hne.2
  next heq =>
    obtain ⟨rfl, rfl⟩ := List.cons.inj heq
    rw [hdrop, List.map_cons, htake, hfirst.2.2.2, ← hcs, List.dropWhile_cons_of_neg (by decide)]
    simp only [readValue_escapeValue hvalue, String.ofList_toList]

/-- The end of a start tag adds nothing. -/
structure Closes (tail : List Char) (selfClosing : Bool) (r : List Char) : Prop where
  ends : ∀ c ∈ tail.head?, endsName c = true
  reads : ∀ more found, readAttributes (more + 1) found tail = some (found, selfClosing, r)

/-- A bracket ends a tag. -/
theorem closes_bracket (r : List Char) : Closes ('>' :: r) false r where
  ends := by simp [endsName]
  reads := by
    intro more found
    rw [readAttributes]
    rfl

/-- So does the end of a tag without content, in either style. -/
theorem closes_closeVoid (style : RenderStyle) (r : List Char) :
    Closes (Render.closeVoid style ++ r) style.selfClosing r := by
  unfold Render.closeVoid
  split
  next hself =>
    rw [hself]
    refine ⟨by simp [endsName, isBlank], ?_⟩
    intro more found
    rw [readAttributes]
    rfl
  next hself =>
    rw [Bool.eq_false_iff.mpr hself]
    exact closes_bracket r

/-- An attribute of a new name comes last. -/
theorem addAttribute_of_notMem {name value : String} {found : List (String × String)} (h : name ∉ entryNames found) :
    addAttribute name value found = found ++ [(name, value)] := by
  have hnone : (found.any fun a => a.1 == name) = false := by
    rw [List.any_eq_false]
    intro a ha heq
    exact h (List.mem_map.mpr ⟨a, ha, beq_iff_eq.mp heq⟩)
  rw [addAttribute, hnone]
  rfl

/-- Attributes with distinct names are read back in order, up to the end of the tag. -/
theorem readAttributes_attributeTexts {es : List (String × String)}
    (h : ∀ a ∈ es, IsAttributeName a.1 ∧ IsClean a.2) (found : List (String × String))
    (hdistinct : (entryNames (found ++ es)).Nodup) {more : Nat} (hmore : es.length < more) {tail r : List Char}
    {selfClosing : Bool} (htail : Closes tail selfClosing r) :
    readAttributes more found (es.flatMap attributeText ++ tail) = some (found ++ es, selfClosing, r) := by
  induction es generalizing found more with
  | nil =>
    obtain ⟨more, rfl⟩ := Nat.exists_eq_succ_of_ne_zero (Nat.ne_of_gt hmore)
    rw [List.append_nil]
    exact htail.reads more found
  | cons a es ih =>
    obtain ⟨more, rfl⟩ := Nat.exists_eq_succ_of_ne_zero (Nat.ne_of_gt (Nat.lt_of_le_of_lt (Nat.zero_le _) hmore))
    obtain ⟨hname, hvalue⟩ := h a List.mem_cons_self
    -- The names are distinct, so this one has not been read before.
    have hnew : a.1 ∉ entryNames found := by
      intro hmem
      rw [entryNames, List.map_append, List.nodup_append] at hdistinct
      exact hdistinct.2.2 a.1 hmem a.1 List.mem_cons_self rfl
    have hrest := ih (fun b hb => h b (List.mem_cons_of_mem a hb)) (found ++ [a])
      (by rwa [List.append_assoc]) (Nat.lt_of_succ_lt_succ hmore)
    rw [List.flatMap_cons, List.append_assoc, readAttributes_attributeText hname hvalue,
      addAttribute_of_notMem hnew, hrest, List.append_assoc]
    rfl

/-- Attributes as they are read: names that do not occur twice, with clean values. -/
structure AreWritten (es : List (String × String)) : Prop where
  fit : ∀ a ∈ es, IsAttributeName a.1 ∧ IsClean a.2
  distinct : (entryNames es).Nodup

theorem areWritten_nil : AreWritten [] := ⟨nofun, List.nodup_nil⟩

/-- A tag is read back: its name, its attributes and how it ends. -/
theorem readTag_append {tag : String} (htag : tag.toList.all isNameChar) {es : List (String × String)}
    (hes : AreWritten es) {tail r : List Char} {selfClosing : Bool} (htail : Closes tail selfClosing r) :
    readTag (tag.toList ++ (es.flatMap attributeText ++ tail)) = some (tag, es, selfClosing, r) := by
  have hstop : ∀ d, isNameChar d → endsName d = false := fun d hd => (isNameChar_iff.mp hd).1
  have hends : ∀ c ∈ (es.flatMap attributeText ++ tail).head?, endsName c = true := by
    cases es with
    | nil => exact htail.ends
    | cons a es => simp [attributeText, endsName, isBlank]
  obtain ⟨htake, hdrop⟩ := name_append htag hstop hends
  -- Fuel for one attribute per character is more than enough.
  have hlength : es.length < (tag.toList ++ (es.flatMap attributeText ++ tail)).length + 1 := by
    have hle := length_le_flatMap (f := attributeText) (fun a => List.cons_ne_nil ' ' _) es
    simp only [List.length_append]
    omega
  have hread := readAttributes_attributeTexts hes.fit [] hes.distinct hlength htail
  rw [readTag, htake, hdrop, hread, String.ofList_toList]
  rfl

/-- The name of an element begins with a letter. -/
theorem IsElementName.toList_eq {s : String} (h : IsElementName s) :
    ∃ c r, s.toList = c :: r ∧ c.isAlpha = true := by
  have hletter := h.letter
  cases hs : s.toList with
  | nil =>
    rw [hs] at hletter
    cases hletter
  | cons c r =>
    rw [hs] at hletter
    exact ⟨c, r, rfl, hletter⟩

/-- A start tag is one token. -/
theorem next_startTag (sections : Bool) {tag : String} (htag : IsElementName tag) {es : List (String × String)}
    (hes : AreWritten es) {tail r : List Char} {selfClosing : Bool} (htail : Closes tail selfClosing r) :
    next .markup sections ('<' :: tag.toList ++ es.flatMap attributeText ++ tail) =
      ([.startTag tag es selfClosing], r) := by
  obtain ⟨c, cs, hcs, hc⟩ := IsElementName.toList_eq htag
  have hread := readTag_append htag.chars hes htail
  rw [List.append_assoc, List.cons_append, next]
  rw [hcs, List.cons_append] at hread ⊢
  simp only [if_true]
  -- Of all things that may follow a bracket, a letter opens a start tag.
  unfold readMarkup
  split
  next heq => obtain ⟨rfl, -⟩ := List.cons.inj heq; cases hc
  next heq => obtain ⟨rfl, -⟩ := List.cons.inj heq; cases hc
  next heq => obtain ⟨rfl, -⟩ := List.cons.inj heq; cases hc
  next heq => obtain ⟨rfl, -⟩ := List.cons.inj heq; cases hc
  next heq => obtain ⟨rfl, -⟩ := List.cons.inj heq; cases hc
  next heq => obtain ⟨rfl, -⟩ := List.cons.inj heq; cases hc
  next heq =>
    obtain ⟨rfl, rfl⟩ := List.cons.inj heq
    rw [if_pos hc, hread]
  next heq => cases heq

/-- An end tag is read back. -/
theorem readEndTag_closeTag {tag : String} (htag : tag.toList.all isNameChar) (r : List Char) :
    readEndTag (tag.toList ++ '>' :: r) = ([.endTag tag], r) := by
  have hread := readTag_append htag areWritten_nil (closes_bracket r)
  rw [List.flatMap_nil, List.nil_append] at hread
  rw [readEndTag, hread]

/-- An end tag is one token. -/
theorem next_closeTag (sections : Bool) {tag : String} (htag : IsElementName tag) (r : List Char) :
    next .markup sections (Render.closeTag tag ++ r) = ([.endTag tag], r) := by
  obtain ⟨c, cs, hcs, hc⟩ := IsElementName.toList_eq htag
  have hread := readEndTag_closeTag htag.chars r
  have htext : Render.closeTag tag ++ r = '<' :: '/' :: (tag.toList ++ '>' :: r) := by
    simp [Render.closeTag]
  rw [htext, next]
  rw [hcs, List.cons_append] at hread ⊢
  simp only [if_true]
  -- Behind the slash there is a letter, so this is an end tag and no stray markup.
  unfold readMarkup
  split
  next heq => cases (List.cons.inj heq).1
  next heq => cases (List.cons.inj heq).1
  next heq => cases (List.cons.inj heq).2
  next heq =>
    obtain ⟨rfl, -⟩ := List.cons.inj (List.cons.inj heq).2
    cases hc
  next heq =>
    obtain ⟨rfl, rfl⟩ := List.cons.inj (List.cons.inj heq).2
    rw [if_pos hc, hread]
  next heq => cases (List.cons.inj heq).1
  next hslash _ heq =>
    obtain ⟨rfl, rfl⟩ := List.cons.inj heq
    exact (hslash c _ rfl rfl).elim
  next heq => cases heq

/-! ## Comments -/

/-- A comment that does not end too early. -/
structure IsComment (s : String) : Prop where
  clean : IsClean s
  not_bracket : ¬ ">".toList <+: s.toList
  not_arrow : ¬ "->".toList <+: s.toList
  no_end : ¬ "-->".toList <:+: s.toList
  no_marked_end : ¬ "--!>".toList <:+: s.toList

instance : DecidablePred IsComment := fun s =>
  decidable_of_iff (IsClean s ∧ ¬ ">".toList <+: s.toList ∧ ¬ "->".toList <+: s.toList ∧
      ¬ "-->".toList <:+: s.toList ∧ ¬ "--!>".toList <:+: s.toList)
    ⟨fun ⟨h1, h2, h3, h4, h5⟩ => ⟨h1, h2, h3, h4, h5⟩, fun ⟨h1, h2, h3, h4, h5⟩ => ⟨h1, h2, h3, h4, h5⟩⟩

/-- A comment with no end inside is read up to its own end. -/
theorem commentText_append {cs : List Char} (hclean : ∀ c ∈ cs, c ≠ '\x00') (hend : ¬ "-->".toList <:+: cs)
    (hmarked : ¬ "--!>".toList <:+: cs) (r : List Char) : commentText (cs ++ '-' :: '-' :: '>' :: r) = (cs, r) := by
  induction cs with
  | nil => rfl
  | cons c cs ih =>
    have hsuffix : cs <:+: c :: cs := (List.suffix_cons c cs).isInfix
    have hrest := ih (fun d hd => hclean d (List.mem_cons_of_mem c hd)) (fun h => hend (h.trans hsuffix))
      (fun h => hmarked (h.trans hsuffix))
    rw [List.cons_append, commentText]
    · rw [hrest, visible_of_ne (hclean c List.mem_cons_self)]
    · -- An end that is found here has all its characters in the text.
      rintro r' rfl heq
      rcases cs with _ | ⟨a, _ | ⟨b, cs⟩⟩
      · simp at heq
      · simp at heq
      · obtain ⟨rfl, rfl, -⟩ : a = '-' ∧ b = '>' ∧ cs ++ '-' :: '-' :: '>' :: r = r' := by simpa using heq
        exact hend ⟨[], cs, rfl⟩
    · rintro r' rfl heq
      rcases cs with _ | ⟨a, _ | ⟨b, _ | ⟨d, cs⟩⟩⟩
      · simp at heq
      · simp at heq
      · simp at heq
      · obtain ⟨rfl, rfl, rfl, -⟩ : a = '-' ∧ b = '!' ∧ d = '>' ∧ cs ++ '-' :: '-' :: '>' :: r = r' := by
          simpa using heq
        exact hmarked ⟨[], cs, rfl⟩
    all_goals
      intro _ heq
      have hlong := congrArg List.length heq
      simp only [List.length_append, List.length_cons, List.length_nil] at hlong
      omega

/-- A comment is one token. -/
theorem next_comment (sections : Bool) {s : String} (h : IsComment s) (r : List Char) :
    next .markup sections ("<!--".toList ++ s.toList ++ "-->".toList ++ r) = ([.comment s], r) := by
  have htext : commentText (s.toList ++ '-' :: '-' :: '>' :: r) = (s.toList, r) :=
    commentText_append (fun c hc => (h.clean c hc).1) h.no_end h.no_marked_end r
  have hread : readComment (s.toList ++ '-' :: '-' :: '>' :: r) = (.comment s, r) := by
    -- Two beginnings make an empty comment, and a comment that may be written has neither.
    unfold readComment
    split
    next heq =>
      rcases hs : s.toList with _ | ⟨a, cs⟩
      · simp [hs] at heq
      · simp only [hs, List.cons_append, List.cons.injEq] at heq
        exact absurd ⟨cs, by simp [hs, heq.1]⟩ h.not_bracket
    next heq =>
      rcases hs : s.toList with _ | ⟨a, _ | ⟨b, cs⟩⟩
      · simp [hs] at heq
      · simp [hs] at heq
      · simp only [hs, List.cons_append, List.cons.injEq] at heq
        exact absurd ⟨cs, by simp [hs, heq.1, heq.2.1]⟩ h.not_arrow
    · rw [htext]
      simp
  have hopen : "<!--".toList ++ s.toList ++ "-->".toList ++ r =
      '<' :: '!' :: '-' :: '-' :: (s.toList ++ '-' :: '-' :: '>' :: r) := by
    simp
  rw [hopen, next]
  simp only [if_true, readMarkup, hread]

/-! ## Text that is taken as it is -/

/-- The elements whose content is taken as it is. -/
def rawNames : List String := ["script", "style", "iframe", "noscript", "noembed", "noframes", "xmp"]

/-- How the content of such an element is cut. -/
def rawModel (tag : String) : TextModel := if tag = "script" then .script else .raw tag

theorem isElementName_of_mem_rawNames {tag : String} (h : tag ∈ rawNames) : IsElementName tag := by
  have hall : ∀ t ∈ rawNames, IsElementName t := by decide
  exact hall tag h

theorem startsWithEnd_of_ne {name r : List Char} {c : Char} (h : c ≠ '<') : startsWithEnd name (c :: r) = false := by
  unfold startsWithEnd
  split
  next heq => exact absurd (List.cons.inj heq).1 h
  · rfl

/-- Only the end tag of the element ends the text. -/
theorem startsWithEnd_closeTag {tag : String} (h : tag ∈ rawNames) (r : List Char) :
    startsWithEnd tag.toList (Render.closeTag tag ++ r) = true := by
  simp only [rawNames, List.mem_cons, List.not_mem_nil, or_false] at h
  rcases h with rfl | rfl | rfl | rfl | rfl | rfl | rfl <;> rfl

/-- The end tag ends the text. -/
theorem next_rawEnd (sections : Bool) {tag : String} (h : tag ∈ rawNames) (r : List Char) :
    next (rawModel tag) sections (Render.closeTag tag ++ r) = ([.endTag tag], r) := by
  have hstarts := startsWithEnd_closeTag h r
  have hread := readEndTag_closeTag (isElementName_of_mem_rawNames h).chars r
  have htext : Render.closeTag tag ++ r = '<' :: '/' :: (tag.toList ++ '>' :: r) := by
    simp [Render.closeTag]
  rw [htext] at hstarts ⊢
  unfold rawModel
  split
  next hscript =>
    subst hscript
    rw [next]
    simp only [hstarts, if_true, List.drop_succ_cons, List.drop_zero, hread]
  · rw [next]
    simp only [hstarts, if_true, List.drop_succ_cons, List.drop_zero, hread]

/-- A character that opens no tag stands for itself. -/
theorem next_rawChar (sections : Bool) {tag : String} {c : Char} (hc : c ≠ '<') (hnull : c ≠ '\x00')
    (r : List Char) : next (.raw tag) sections (c :: r) = ([.char c], r) := by
  rw [next]
  simp only [startsWithEnd_of_ne hc, visible_of_ne hnull]
  rfl

/-- A script without brackets is read up to its end tag. -/
theorem scriptText_append {cs : List Char} (h : ∀ c ∈ cs, c ≠ '<' ∧ c ≠ '\x00') (r : List Char) :
    scriptText .outside 0 (cs ++ (Render.closeTag "script" ++ r)) = (cs, Render.closeTag "script" ++ r) := by
  induction cs with
  | nil => rfl
  | cons c cs ih =>
    obtain ⟨hc, hnull⟩ := h c List.mem_cons_self
    have hrest := ih fun d hd => h d (List.mem_cons_of_mem c hd)
    have hopen : ['<', '!', '-', '-'].isPrefixOf (c :: (cs ++ (Render.closeTag "script" ++ r))) = false := by
      simp [List.isPrefixOf, Ne.symm hc]
    rw [List.cons_append, scriptText]
    simp [startsWithEnd_of_ne hc, hopen, hrest, visible_of_ne hnull]

/-- A script is one token for each character, all cut off at once. -/
theorem next_script (sections : Bool) {cs : List Char} (hne : cs ≠ []) (h : ∀ c ∈ cs, c ≠ '<' ∧ c ≠ '\x00')
    (r : List Char) :
    next .script sections (cs ++ (Render.closeTag "script" ++ r)) =
      (cs.map .char, Render.closeTag "script" ++ r) := by
  have htext := scriptText_append h r
  cases cs with
  | nil => exact absurd rfl hne
  | cons c cs =>
    have hstarts : startsWithEnd "script".toList (c :: (cs ++ (Render.closeTag "script" ++ r))) = false :=
      startsWithEnd_of_ne (h c List.mem_cons_self).1
    rw [List.cons_append] at htext ⊢
    rw [next]
    simp only [hstarts, htext]
    rfl

end Lexer

end LinkEmbed.Html
