import LinkEmbed.Proofs.Text.Separated
import LinkEmbed.Url.Host
import Mathlib.Data.List.TakeWhile
import Mathlib.Tactic.IntervalCases

/-!
# Addresses as hosts

An address that was read is in bounds, and an address in bounds is known by its text, although the text of one of
128 bits leaves out a run of zeros.

* `Host.lt_of_readIpv4`, `Host.ipv4Text_injective` — addresses of 32 bits.
* `Host.endsInNumber_ipv4Text` — their text is never taken for a name.
* `Host.length_of_readIpv6`, `Host.ipv6Text_injective` — addresses of 128 bits, which are eight pieces of 16.
* `Host.mem_ipv4Text`, `Host.mem_ipv6Text` — the characters that stand in either.
-/

namespace LinkEmbed.Host

/-! ## Addresses of 32 bits -/

/-- The four bytes of an address. -/
def ipv4Bytes (n : Nat) : List Nat := [(n >>> 24) % 256, (n >>> 16) % 256, (n >>> 8) % 256, n % 256]

/-- The text of an address is its bytes with points between them. -/
theorem toList_ipv4Text (n : Nat) :
    (ipv4Text n).toList = ['.'].intercalate ((ipv4Bytes n).map (Nat.toDigits 10)) := by
  simp [ipv4Text, ipv4Bytes, toString]

/-- Digits hold no point. -/
theorem not_dot_of_mem_bytes {n : Nat} : ∀ w ∈ (ipv4Bytes n).map (Nat.toDigits 10), '.' ∉ w := by
  intro w hw hdot
  obtain ⟨b, -, rfl⟩ := List.mem_map.mp hw
  have := Nat.isDigit_of_mem_toDigits (by decide) (by decide) hdot
  exact absurd this (by decide)

theorem toDigits_injective {m n : Nat} (h : Nat.toDigits 10 m = Nat.toDigits 10 n) : m = n := by
  rw [← Nat.ofDigitChars_ten_toDigits (n := m), h, Nat.ofDigitChars_ten_toDigits]

/-- An address in bounds is known by its text: its bytes are, and there are four. -/
theorem ipv4Text_injective {m n : Nat} (hm : m < 2 ^ 32) (hn : n < 2 ^ 32) (h : ipv4Text m = ipv4Text n) :
    m = n := by
  have hjoined := congrArg String.toList h
  rw [toList_ipv4Text, toList_ipv4Text] at hjoined
  have hwords := Text.intercalate_injective not_dot_of_mem_bytes not_dot_of_mem_bytes (by simp [ipv4Bytes])
    (by simp [ipv4Bytes]) hjoined
  have hbytes : ipv4Bytes m = ipv4Bytes n :=
    (List.map_inj_right fun _ _ => toDigits_injective).mp hwords
  simp only [ipv4Bytes, List.cons.injEq, Nat.shiftRight_eq_div_pow, and_true] at hbytes
  omega

/-- The text of an address reads as a number, so it is no name. -/
theorem endsInNumber_ipv4Text (n : Nat) : endsInNumber (ipv4Text n).toList = true := by
  have hnone : ∀ w ∈ (ipv4Bytes n).map (Nat.toDigits 10), ∀ c ∈ w, (c == '.') = false := by
    intro w hw c hc
    exact Text.beq_eq_false_of_not_mem (not_dot_of_mem_bytes w hw) hc
  have hsplit : Text.splitWhere (· == '.') (ipv4Text n).toList = (ipv4Bytes n).map (Nat.toDigits 10) := by
    rw [toList_ipv4Text]
    exact Text.splitWhere_intercalate (by decide) hnone (by simp [ipv4Bytes])
  have hdigits : (Nat.toDigits 10 (n % 256)).all Char.isDigit = true :=
    List.all_eq_true.mpr fun c hc => Nat.isDigit_of_mem_toDigits (by decide) (by decide) hc
  have hlast : Nat.toDigits 10 (n % 256) ≠ [] := Nat.toDigits_ne_nil
  unfold endsInNumber
  -- Only the last of the four words counts, and it is one of digits.
  rw [hsplit]
  simp only [ipv4Bytes, List.map_cons, List.map_nil, List.reverse_cons, List.reverse_nil, List.nil_append,
    List.cons_append]
  cases hw : Nat.toDigits 10 (n % 256) with
  | nil => exact absurd hw hlast
  | cons c w =>
    rw [hw] at hdigits
    simp [hdigits]

/-- Only digits and points stand in the text of an address. -/
theorem mem_ipv4Text {n : Nat} {c : Char} (h : c ∈ (ipv4Text n).toList) : c.isAlphanum = true ∨ c = '.' := by
  rw [toList_ipv4Text] at h
  rcases Text.mem_of_mem_intercalate h with rfl | ⟨w, hw, hc⟩
  · exact Or.inr rfl
  · obtain ⟨b, -, rfl⟩ := List.mem_map.mp hw
    have hdigit := Nat.isDigit_of_mem_toDigits (by decide) (by decide) hc
    exact Or.inl (by simp [Char.isAlphanum, hdigit])

/-- Numbers up to 255 fill one byte each. -/
theorem foldl_bytes_lt {front : List Nat} (h : front.any (· > 255) = false) (n : Nat) :
    front.foldl (256 * · + ·) n < (n + 1) * 256 ^ front.length := by
  induction front generalizing n with
  | nil => simp
  | cons b rest ih =>
    simp only [List.any_cons, Bool.or_eq_false_iff, decide_eq_false_iff_not] at h
    calc (b :: rest).foldl (256 * · + ·) n
        = rest.foldl (256 * · + ·) (256 * n + b) := rfl
      _ < (256 * n + b + 1) * 256 ^ rest.length := ih h.2 _
      _ ≤ ((n + 1) * 256) * 256 ^ rest.length := Nat.mul_le_mul_right _ (by omega)
      _ = (n + 1) * 256 ^ (b :: rest).length := by rw [List.length_cons, Nat.pow_succ', Nat.mul_assoc]

/-- The last number fills what the bytes before it leave. -/
theorem lt_of_readIpv4 {name : List Char} {n : Nat} (h : readIpv4 name = .ok n) : n < 2 ^ 32 := by
  unfold readIpv4 at h
  extract_lets parts numbers at h
  split at h
  next => cases h
  next hparts =>
    split at h
    next => cases h
    next ns hns =>
      extract_lets front last at h
      split at h
      next => cases h
      next hbounds =>
        have hlength : front.length ≤ 3 := by
          rw [List.length_dropLast, Text.length_of_mapM hns, List.length_map]
          omega
        obtain ⟨hlast, hfront⟩ := not_or.mp hbounds
        have hbytes := foldl_bytes_lt (Bool.eq_false_iff.mpr hfront) 0
        obtain rfl := Except.ok.inj h
        -- What is left is arithmetic, for each number of bytes before the last number.
        generalize front.foldl (256 * · + ·) 0 = m at *
        rw [Nat.shiftLeft_eq] at *
        interval_cases front.length <;> omega

/-! ## Addresses of 128 bits -/

/-- The words between the colons of pieces; no pieces make one empty word. -/
def words (ps : List Nat) : List (List Char) := if ps = [] then [[]] else ps.map Text.hexDigits

theorem words_ne_nil (ps : List Nat) : words ps ≠ [] := by
  unfold words
  split <;> simp [*]

/-- The text of pieces is their words with colons between them. -/
theorem toList_piecesText (ps : List Nat) : (piecesText ps).toList = [':'].intercalate (words ps) := by
  unfold piecesText words
  split
  next h => simp [h]
  next h => simp [Function.comp_def]

/-- Only no pieces at all make an empty word. -/
theorem nil_mem_words {ps : List Nat} (h : ps ≠ []) : [] ∉ words ps := by
  simp [words, h, Text.hexDigits_ne_nil]

theorem nil_ne_hexDigits {ps : List Nat} : [[]] ≠ ps.map Text.hexDigits := by
  intro h
  obtain ⟨p, -, hp⟩ := List.mem_map.mp (h ▸ List.mem_singleton.mpr rfl : ([] : List Char) ∈ ps.map Text.hexDigits)
  exact Text.hexDigits_ne_nil p hp

/-- Pieces are known by their words. -/
theorem words_injective {ps qs : List Nat} (h : words ps = words qs) : ps = qs := by
  unfold words at h
  split at h <;> split at h
  next hp hq => rw [hp, hq]
  next hp hq => exact absurd h nil_ne_hexDigits
  next hp hq => exact absurd h.symm nil_ne_hexDigits
  next hp hq => exact (List.map_inj_right fun _ _ => Text.hexDigits_injective).mp h

/-- No word holds a colon. -/
theorem colon_not_mem_words {ps : List Nat} : ∀ w ∈ words ps, ':' ∉ w := by
  intro w hw hcolon
  unfold words at hw
  split at hw
  · simp_all
  · obtain ⟨p, -, rfl⟩ := List.mem_map.mp hw
    exact absurd (Text.isAlphanum_of_mem_hexDigits hcolon) (by decide)

/-- A first word that is empty is the first of no pieces. -/
theorem eq_nil_of_words_append {ps : List Nat} {l m : List (List Char)} (h : words ps ++ l = [] :: m) :
    ps = [] := by
  by_contra hps
  obtain ⟨w, r, hw⟩ := List.exists_cons_of_ne_nil (words_ne_nil ps)
  rw [hw, List.cons_append] at h
  obtain rfl := (List.cons.inj h).1
  exact nil_mem_words hps (hw ▸ List.mem_cons_self)

/-- A double colon leaves the pieces on both sides of it known. -/
theorem words_gap_injective {ps qs ps' qs' : List Nat}
    (h : words ps ++ [] :: words qs = words ps' ++ [] :: words qs') : ps = ps' ∧ qs = qs' := by
  have hstop : ∀ {ms : List Nat}, ms ≠ [] → ∀ w ∈ words ms, w.isEmpty = false := by
    intro ms hms w hw
    refine List.isEmpty_eq_false_iff.mpr ?_
    rintro rfl
    exact nil_mem_words hms hw
  -- The first empty word is the double colon, unless there are no pieces before it.
  by_cases hp : ps = []
  · subst hp
    obtain rfl := eq_nil_of_words_append h.symm
    exact ⟨rfl, words_injective (by simpa [words] using h)⟩
  · by_cases hp' : ps' = []
    · subst hp'
      exact absurd (eq_nil_of_words_append h) hp
    · obtain ⟨hfront, hback⟩ := Text.append_inj_of_stop (hstop hp) (hstop hp') (by simp) (by simp) h
      exact ⟨words_injective hfront, words_injective (List.cons.inj hback).2⟩

/-- The longest run of zeros is one of zeros. -/
theorem longestZeroRun_spec (k : Nat) (ps : List Nat) :
    ∃ front back, ps = front ++ List.replicate (longestZeroRun k ps).2 0 ++ back ∧
      (longestZeroRun k ps).1 = k + front.length := by
  induction ps generalizing k with
  | nil => exact ⟨[], [], rfl, rfl⟩
  | cons p r ih =>
    rw [longestZeroRun]
    split
    next =>
      -- The longest run lies further back.
      obtain ⟨front, back, hr, hk⟩ := ih (k + 1)
      refine ⟨p :: front, back, ?_, ?_⟩
      · rw [List.cons_append, List.cons_append, ← hr]
      · rw [hk, List.length_cons]
        omega
    next =>
      -- The longest run begins here, and nothing is before it.
      refine ⟨[], (p :: r).dropWhile (· == 0), ?_, rfl⟩
      have hzeros : (p :: r).takeWhile (· == 0) = List.replicate (zeroRun (p :: r)) 0 := by
        refine List.eq_replicate_iff.mpr ⟨rfl, fun x hx => ?_⟩
        simpa using List.mem_takeWhile_imp hx
      rw [List.nil_append, ← hzeros, List.takeWhile_append_dropWhile]

/-- The text of an address leaves nothing out, or a run of zeros. -/
theorem ipv6Text_cases (ps : List Nat) :
    ipv6Text ps = piecesText ps ∨
      ∃ front n back, ps = front ++ List.replicate n 0 ++ back ∧
        ipv6Text ps = piecesText front ++ "::" ++ piecesText back := by
  obtain ⟨front, back, hps, hfront⟩ := longestZeroRun_spec 0 ps
  rw [Nat.zero_add] at hfront
  unfold ipv6Text
  split
  next i n hrun =>
    rw [hrun] at hps hfront
    simp only at hps hfront
    subst hfront
    split
    next => exact Or.inl rfl
    next =>
      -- The run is left out; what is before and behind it is written.
      refine Or.inr ⟨front, n, back, hps, ?_⟩
      have htake : ps.take front.length = front := by simp [hps]
      have hdrop : ps.drop (front.length + n) = back := by simp [hps, List.drop_append]
      rw [htake, hdrop]

/-- A double colon is an empty word between two colons. -/
theorem toList_gapText (front back : List Nat) :
    (piecesText front ++ "::" ++ piecesText back).toList =
      [':'].intercalate (words front ++ [] :: words back) := by
  rw [Text.intercalate_append (words_ne_nil front) (List.cons_ne_nil _ _),
    List.intercalate_cons_of_ne_nil (words_ne_nil back), String.toList_append, String.toList_append,
    toList_piecesText, toList_piecesText]
  simp

/-- No word holds a colon, the empty one neither. -/
theorem colon_not_mem_gap {ps qs : List Nat} : ∀ w ∈ words ps ++ [] :: words qs, ':' ∉ w := by
  intro w hw
  rcases List.mem_append.mp hw with hw | hw
  · exact colon_not_mem_words w hw
  · rcases List.mem_cons.mp hw with rfl | hw
    · exact List.not_mem_nil
    · exact colon_not_mem_words w hw

/-- A text without a double colon is none with one. -/
theorem piecesText_ne_gapText {ps front back : List Nat} (hps : ps ≠ []) :
    piecesText ps ≠ piecesText front ++ "::" ++ piecesText back := by
  intro h
  have hlist := congrArg String.toList h
  rw [toList_piecesText, toList_gapText] at hlist
  have hwords := Text.intercalate_injective colon_not_mem_words colon_not_mem_gap (words_ne_nil ps)
    (by simp) hlist
  exact nil_mem_words hps (hwords ▸ by simp)

/-- Pieces are known by their text. -/
theorem piecesText_injective {ps qs : List Nat} (h : piecesText ps = piecesText qs) : ps = qs := by
  have hlist := congrArg String.toList h
  rw [toList_piecesText, toList_piecesText] at hlist
  exact words_injective (Text.intercalate_injective colon_not_mem_words colon_not_mem_words
    (words_ne_nil ps) (words_ne_nil qs) hlist)

/-- So are the pieces on both sides of a double colon. -/
theorem gapText_injective {ps qs ps' qs' : List Nat}
    (h : piecesText ps ++ "::" ++ piecesText qs = piecesText ps' ++ "::" ++ piecesText qs') :
    ps = ps' ∧ qs = qs' := by
  have hlist := congrArg String.toList h
  rw [toList_gapText, toList_gapText] at hlist
  exact words_gap_injective (Text.intercalate_injective colon_not_mem_gap colon_not_mem_gap (by simp)
    (by simp) hlist)

/-- The length says how many zeros are left out. -/
theorem ipv6Text_injective {ps qs : List Nat} (hp : ps.length = 8) (hq : qs.length = 8)
    (h : ipv6Text ps = ipv6Text qs) : ps = qs := by
  have hps : ps ≠ [] := List.ne_nil_of_length_eq_add_one hp
  have hqs : qs ≠ [] := List.ne_nil_of_length_eq_add_one hq
  rcases ipv6Text_cases ps with hpt | ⟨f, n, b, hpf, hpt⟩ <;>
    rcases ipv6Text_cases qs with hqt | ⟨f', n', b', hqf, hqt⟩ <;>
    rw [hpt, hqt] at h
  · exact piecesText_injective h
  · exact absurd h (piecesText_ne_gapText hps)
  · exact absurd h.symm (piecesText_ne_gapText hqs)
  · obtain ⟨rfl, rfl⟩ := gapText_injective h
    -- Both addresses have eight pieces, so both leave out the same number of zeros.
    have hn : n = n' := by
      rw [hpf] at hp
      rw [hqf] at hq
      simp only [List.length_append, List.length_replicate] at hp hq
      omega
    rw [hpf, hqf, hn]

/-- Only digits and colons stand in the text of pieces. -/
theorem mem_piecesText {ps : List Nat} {c : Char} (h : c ∈ (piecesText ps).toList) :
    c.isAlphanum = true ∨ c = ':' := by
  rw [toList_piecesText] at h
  rcases Text.mem_of_mem_intercalate h with rfl | ⟨w, hw, hc⟩
  · exact Or.inr rfl
  · unfold words at hw
    split at hw
    · simp_all
    · obtain ⟨p, -, rfl⟩ := List.mem_map.mp hw
      exact Or.inl (Text.isAlphanum_of_mem_hexDigits hc)

/-- Only digits and colons stand in the text of an address. -/
theorem mem_ipv6Text {ps : List Nat} {c : Char} (h : c ∈ (ipv6Text ps).toList) :
    c.isAlphanum = true ∨ c = ':' := by
  rcases ipv6Text_cases ps with ht | ⟨f, n, b, -, ht⟩ <;> rw [ht] at h
  · exact mem_piecesText h
  · rw [String.toList_append, String.toList_append, List.mem_append, List.mem_append] at h
    rcases h with (h | h) | h
    · exact mem_piecesText h
    · exact Or.inr (by simpa using h)
    · exact mem_piecesText h

/-! ## Reading addresses of 128 bits -/

/-- An address of 32 bits at the end fills two pieces. -/
theorem length_of_readIpv4Tail {cs : List Char} {ps : List Nat} (h : readIpv4Tail cs = some ps) :
    ps.length = 2 := by
  unfold readIpv4Tail at h
  extract_lets byte? at h
  split at h
  next => exact (Option.some.inj h) ▸ rfl
  next => cases h

theorem count_append (s : Ipv6State) (ps : List Nat) :
    Ipv6State.count { s with pieces := s.pieces ++ ps } = s.count + ps.length := by
  simp only [Ipv6State.count, List.length_append]
  omega

theorem count_gap {s : Ipv6State} (h : ¬ s.gap.isSome = true) (k : Nat) :
    Ipv6State.count { s with gap := some k } = s.count + 1 := by
  simp [Ipv6State.count, h]

/-- There are never more than eight pieces, the double colon being one. -/
theorem count_of_readPieces {more : Nat} {s s' : Ipv6State} {cs : List Char} (hs : s.count ≤ 8)
    (h : readPieces more s cs = some s') : s'.count ≤ 8 := by
  -- Only the cases that go on or end well count; all others give nothing.
  fun_induction readPieces more s cs generalizing s'
  case case1 => exact (Option.some.inj h) ▸ hs
  case case5 hfull hgap ih => exact ih (by rw [count_gap hgap]; omega) h
  case case7 hroom =>
    obtain ⟨ps, hps, rfl⟩ := Option.map_eq_some_iff.mp h
    rw [count_append, length_of_readIpv4Tail hps]
    omega
  case case9 hfull _ _ _ _ _ _ _ _ ih => exact ih (by rw [count_append, List.length_singleton]; omega) h
  case case10 hfull _ _ _ _ _ _ =>
    obtain rfl := Option.some.inj h
    rw [count_append, List.length_singleton]
    omega
  all_goals cases h

/-- An address has eight pieces: the double colon stands for as many as are missing. -/
theorem length_of_readIpv6 {cs : List Char} {ps : List Nat} (h : readIpv6 cs = .ok ps) : ps.length = 8 := by
  unfold readIpv6 at h
  extract_lets state at h
  have hcount : ∀ s, state = some s → s.count ≤ 8 := by
    intro s hs
    simp only [state] at hs
    split at hs
    next => exact count_of_readPieces (by decide) hs
    next => cases hs
    next => exact count_of_readPieces (by decide) hs
  clear_value state
  split at h
  next pieces gap =>
    -- Pieces and the double colon are eight at most, so one zero at least is put in.
    have hle : pieces.length + 1 ≤ 8 := hcount _ rfl
    obtain rfl := Except.ok.inj h
    simp only [List.length_append, List.length_take, List.length_replicate, List.length_drop]
    omega
  next pieces =>
    split at h
    next hlength => exact (Except.ok.inj h) ▸ hlength
    next => cases h
  next => cases h

end LinkEmbed.Host
