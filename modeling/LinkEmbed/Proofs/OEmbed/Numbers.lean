import LinkEmbed.OEmbed.Decode
import LinkEmbed.Proofs.Binary64.Decimal

/-!
# Numbers in oEmbed documents

A number is taken where the floating point number that stands for it is in range, and is rounded then. For integers,
however they are given, this comes to what can be said without floating point.

* `Binary64.IsNearest.inRange_iff` — whether an integer is in range is seen from the number nearest to it.
* `OEmbed.readDimension_eq_ok_iff`, `OEmbed.readAge_eq_ok_iff` — what the readers take, and what they give.
* `OEmbed.GivesInteger.isSize_iff` — an integer of 32 bits is a size, and is read as it is.
* `OEmbed.GivesInteger.isAge_iff` — an integer that is not far above the largest age is one, and is read as the
  floating point number nearest to it.
* `OEmbed.GivesNonFinite.not_inRange` — what is no finite number is neither.
-/

namespace LinkEmbed

section

variable {ε α β : Type} {x : Except ε α} {b : β}

theorem bind_eq_ok_iff {f : α → Except ε β} : x >>= f = .ok b ↔ ∃ a, x = .ok a ∧ f a = .ok b := by
  cases x with
  | error e => simp [bind, Except.bind]
  | ok a => simp [bind, Except.bind]

theorem map_eq_ok_iff {f : α → β} : x.map f = .ok b ↔ ∃ a, x = .ok a ∧ f a = b := by
  cases x with
  | error e => simp [Except.map]
  | ok a => simp [Except.map]

end

/-! ## Ranges -/

namespace Binary64

/-- A finite number from zero up to a bound. -/
def InRange (bound : Nat) (x : Binary64) : Prop := x.isFinite = true ∧ 0 ≤ x.toRat ∧ x.toRat ≤ bound

/-- A finite number that is nearest to an integer has its sign. -/
theorem IsNearest.toRat_eq {i : Int} {x : Binary64} (h : IsNearest i x) (hx : x.isFinite = true) :
    x.toRat = i.sign * nearest i.natAbs := by
  cases h with
  | infinite => cases hx
  | @finite negative n m q hvalue =>
    rw [toRat, hvalue]
    rcases Nat.eq_zero_or_pos n with rfl | hpos
    · have hnearest : nearest 0 = 0 := nearest_of_lt (by decide)
      cases negative <;> simp [withSign, hnearest]
    · have hsign : Int.sign (n : Int) = 1 := Int.sign_eq_one_of_pos (by omega)
      cases negative <;> simp [withSign, hsign]

theorem nearest_pos {n : Nat} (hn : n ≠ 0) : 0 < nearest n := (Nat.two_pow_pos _).trans_le (two_pow_le_nearest hn)

/-- A finite number that is nearest to a natural number is the nearest natural number. -/
theorem IsNearest.toRat_of_nonneg {i : Int} {x : Binary64} (h : IsNearest i x) (hx : x.isFinite = true) (hi : 0 ≤ i) :
    x.toRat = nearest i.natAbs := by
  rw [h.toRat_eq hx]
  rcases hi.eq_or_lt with rfl | hpos
  · have hnearest : nearest 0 = 0 := nearest_of_lt (by decide)
    simp [hnearest]
  · rw [Int.sign_eq_one_of_pos hpos, Int.cast_one, one_mul]

/-- No integer of 128 bits is nearest to an infinity. -/
theorem IsNearest.isFinite {i : Int} {x : Binary64} (h : IsNearest i x) (hi : i.natAbs < 2 ^ 128) :
    x.isFinite = true := by
  cases h with
  | finite => rfl
  | @infinite negative n hlarge =>
    have habs : (withSign negative n).natAbs = n := by cases negative <;> simp [withSign]
    rw [habs] at hi
    exact absurd hlarge (not_le.mpr hi)

/-- Whether an integer is in range is seen from the number nearest to it. -/
theorem IsNearest.inRange_iff {i : Int} {x : Binary64} (h : IsNearest i x) {bound : Nat} (hbound : bound < 2 ^ 128) :
    x.InRange bound ↔ 0 ≤ i ∧ nearest i.natAbs ≤ bound := by
  constructor
  · rintro ⟨hx, hlow, hhigh⟩
    -- A negative integer has a negative nearest number.
    have hi : 0 ≤ i := by
      by_contra hneg
      have hpos : (0 : ℚ) < nearest i.natAbs := Nat.cast_pos.mpr (nearest_pos (by omega))
      rw [h.toRat_eq hx, Int.sign_eq_neg_one_of_neg (not_le.mp hneg)] at hlow
      push_cast at hlow
      linarith
    rw [h.toRat_of_nonneg hx hi, Nat.cast_le] at hhigh
    exact ⟨hi, hhigh⟩
  · rintro ⟨hi, hhigh⟩
    -- An integer of more bits would be nearest to something above the bound.
    have hsmall : i.natAbs < 2 ^ 128 := by
      by_contra hlarge
      have hlog : 128 ≤ i.natAbs.log2 := (Nat.le_log2 (by omega)).mpr (not_lt.mp hlarge)
      have hpow : 2 ^ 128 ≤ 2 ^ i.natAbs.log2 := Nat.pow_le_pow_right two_pos hlog
      have hnearest := two_pow_le_nearest (show i.natAbs ≠ 0 by omega)
      omega
    have hx := h.isFinite hsmall
    refine ⟨hx, ?_, ?_⟩
    · rw [h.toRat_of_nonneg hx hi]
      exact Nat.cast_nonneg _
    · rw [h.toRat_of_nonneg hx hi]
      exact Nat.cast_le.mpr hhigh

/-- A number in range is rounded to a natural number, a half up. -/
theorem roundHalfUp_of_nonneg {s : Bool} {m : Nat} {q : Int} (h : 0 ≤ (finite s m q).toRat) :
    roundHalfUp m q = ⌊(finite s m q).toRat + 1 / 2⌋₊ := by
  rw [roundHalfUp_eq]
  cases s with
  | false => rw [toRat_of_positive]
  | true =>
    -- Only zero is negative and not below zero.
    have hpos : (0 : ℚ) ≤ m * 2 ^ q := by positivity
    rw [toRat_neg, toRat_of_positive] at h ⊢
    have hzero : (m : ℚ) * 2 ^ q = 0 := le_antisymm (by linarith) hpos
    rw [hzero, neg_zero]

end Binary64

namespace OEmbed

open Binary64 (InRange)

/-! ## Numbers -/

/-- The floating point number that a value is, is nearest to, or spells between white space. -/
inductive Denotes : Json → Binary64 → Prop where
  | integer (i : Int) : Denotes (.integer i) (.ofInt i)
  | float (x : Binary64) : Denotes (.float x) x
  | text {s : String} {x : Binary64} : Binary64.read? (Text.trim s) = some x → Denotes (.text s) x

/-- Numbers and texts that spell numbers are read, and nothing else is. -/
theorem readNumber_eq_ok_iff {v : Json} {x : Binary64} : readNumber v = .ok x ↔ Denotes v x := by
  constructor
  · intro h
    unfold readNumber at h
    split at h
    next i => exact Except.ok.inj h ▸ .integer i
    next y => exact Except.ok.inj h ▸ .float y
    next s =>
      split at h
      next y hread => exact Except.ok.inj h ▸ .text hread
      next => cases h
    next => cases h
  · rintro (i | x | hread)
    · rfl
    · rfl
    · rw [readNumber, hread]

/-- A number passes if it is from zero to the number nearest to `max`, and is rounded then. -/
theorem unsigned_eq_ok_iff {max bound : Nat} (hmax : max < 2 ^ 128) (hbound : Binary64.nearest max = bound)
    {x : Binary64} {k : Nat} :
    unsigned max x = .ok k ↔ x.InRange bound ∧ k = min ⌊x.toRat + 1 / 2⌋₊ maxAge := by
  have hlimit := Binary64.isNearest_ofInt max
  have hfinite := hlimit.isFinite (by simpa using hmax)
  have hvalue : (Binary64.ofInt max).toRat = bound := by
    rw [hlimit.toRat_of_nonneg hfinite (Int.natCast_nonneg max), Int.natAbs_natCast, hbound]
  cases x with
  | infinite s => simp [unsigned, InRange, Binary64.isFinite]
  | nan => simp [unsigned, InRange, Binary64.isFinite]
  | finite s m q =>
    -- Both bounds are compared as fractions.
    have hrange : ((Binary64.finite s m q).lt (.zero false) || (Binary64.ofInt max).lt (.finite s m q)) = true ↔
        ¬ (Binary64.finite s m q).InRange bound := by
      cases hm : Binary64.ofInt max with
      | infinite t => rw [hm] at hfinite; cases hfinite
      | nan => rw [hm] at hfinite; cases hfinite
      | finite t n p =>
        rw [hm] at hvalue
        rw [Bool.or_eq_true, Binary64.zero, Binary64.lt_finite_iff, Binary64.lt_finite_iff, hvalue,
          ← Binary64.zero, Binary64.toRat_zero, InRange, not_and_or, not_and_or, not_le, not_le]
        simp [Binary64.isFinite]
    unfold unsigned
    dsimp only
    split
    next h => simp [hrange.mp h]
    next h =>
      have hin := not_not.mp (mt hrange.mpr h)
      rw [Except.ok.injEq, toWord, Binary64.roundHalfUp_of_nonneg hin.2.1]
      exact ⟨fun hk => ⟨hin, hk.symm⟩, fun hk => hk.2.symm⟩

/-- The largest size is a floating point number. -/
theorem nearest_maxDimension : Binary64.nearest maxDimension = 2 ^ 32 - 1 :=
  Binary64.nearest_of_lt (by decide)

/-- The largest age is not one, and the nearest is above it. -/
theorem nearest_maxAge : Binary64.nearest maxAge = 2 ^ 64 := by decide

/-- A size in range is below `2^32` also when it is rounded up. -/
theorem round_lt_of_inRange {x : Binary64} (h : x.InRange (2 ^ 32 - 1)) : ⌊x.toRat + 1 / 2⌋₊ < 2 ^ 32 := by
  obtain ⟨-, hlow, hhigh⟩ := h
  rw [Nat.floor_lt (by linarith)]
  push_cast at hhigh ⊢
  linarith

/-- A size that passes is below `2^32`, so neither word cuts anything off. -/
theorem unsigned_maxDimension_eq_ok_iff {x : Binary64} {k : Nat} :
    unsigned maxDimension x = .ok k ↔ x.InRange (2 ^ 32 - 1) ∧ k = ⌊x.toRat + 1 / 2⌋₊ := by
  rw [unsigned_eq_ok_iff (by decide) nearest_maxDimension]
  refine and_congr_right fun hx => ?_
  have hlt := round_lt_of_inRange hx
  rw [min_eq_left (by rw [maxAge]; omega)]

theorem lowerHalf_of_lt {n : Nat} (h : n < 2 ^ 32) : lowerHalf n = n := Nat.mod_eq_of_lt h

/-- A size: a number in range, rounded. -/
def IsSize (v : Json) (k : Nat) : Prop := ∃ x, Denotes v x ∧ x.InRange (2 ^ 32 - 1) ∧ k = ⌊x.toRat + 1 / 2⌋₊

/-- The reader of sizes takes sizes. The word they go through is large enough. -/
theorem readDimension_eq_ok_iff {v : Json} {k : Nat} : readDimension v = .ok k ↔ IsSize v k := by
  rw [readDimension, bind_eq_ok_iff]
  refine exists_congr fun x => ?_
  rw [readNumber_eq_ok_iff, bind_eq_ok_iff]
  refine and_congr_right fun _ => ?_
  constructor
  · rintro ⟨n, hn, hk⟩
    obtain ⟨hx, rfl⟩ := unsigned_maxDimension_eq_ok_iff.mp hn
    obtain rfl := Except.ok.inj hk
    exact ⟨hx, lowerHalf_of_lt (round_lt_of_inRange hx)⟩
  · rintro ⟨hx, rfl⟩
    refine ⟨_, unsigned_maxDimension_eq_ok_iff.mpr ⟨hx, rfl⟩, ?_⟩
    rw [lowerHalf_of_lt (round_lt_of_inRange hx)]
    rfl

/-- An age: a number in range, rounded, and brought down to the largest word where it is larger. -/
def IsAge (v : Json) (k : Nat) : Prop :=
  ∃ x, Denotes v x ∧ x.InRange (2 ^ 64) ∧ k = min ⌊x.toRat + 1 / 2⌋₊ maxAge

/-- The reader of ages takes ages. -/
theorem readAge_eq_ok_iff {v : Json} {k : Nat} : readAge v = .ok k ↔ IsAge v k := by
  rw [readAge, bind_eq_ok_iff]
  refine exists_congr fun x => ?_
  rw [readNumber_eq_ok_iff, unsigned_eq_ok_iff (by decide) nearest_maxAge]

/-! ## Integers -/

theorem Denotes.unique {v : Json} {x y : Binary64} (hx : Denotes v x) (hy : Denotes v y) : x = y :=
  Except.ok.inj ((readNumber_eq_ok_iff.mpr hx).symm.trans (readNumber_eq_ok_iff.mpr hy))

/-- An integer as a number, or as a text of digits with or without a sign, between any white space. -/
inductive GivesInteger : Json → Int → Prop where
  | integer (i : Int) : GivesInteger (.integer i) i
  | text {before cs after : List Char} {i : Int} :
      before.all Text.isSpace = true → Binary64.SpellsInteger cs i → after.all Text.isSpace = true →
      GivesInteger (.text (String.ofList (before ++ cs ++ after))) i

/-- A text that spells an infinity or what is no number, between any white space. -/
inductive GivesNonFinite : Json → Prop where
  | text {before cs after : List Char} :
      before.all Text.isSpace = true → Binary64.SpellsNonFinite cs → after.all Text.isSpace = true →
      GivesNonFinite (.text (String.ofList (before ++ cs ++ after)))

/-- White space around a number does not matter. -/
theorem denotes_padded {before cs after : List Char} {x : Binary64} (hbefore : before.all Text.isSpace = true)
    (hcs : ∀ c ∈ cs, Text.isSpace c = false) (hafter : after.all Text.isSpace = true)
    (hread : Binary64.read? (String.ofList cs) = some x) :
    Denotes (.text (String.ofList (before ++ cs ++ after))) x := by
  refine .text ?_
  rw [Text.trim, String.toList_ofList, Text.trimChars_append hbefore (.of_none hcs) hafter, hread]

/-- An integer, however it is given, is read as the number nearest to it. -/
theorem GivesInteger.exists_denotes {v : Json} {i : Int} (h : GivesInteger v i) :
    ∃ x, Denotes v x ∧ Binary64.IsNearest i x := by
  cases h with
  | integer => exact ⟨_, .integer i, Binary64.isNearest_ofInt i⟩
  | text hbefore hspells hafter =>
    obtain ⟨x, hread, hnearest⟩ := hspells.exists_read?
    exact ⟨x, denotes_padded hbefore (fun _ => hspells.not_isSpace) hafter hread, hnearest⟩

/-- What is no finite number is never in range. -/
theorem GivesNonFinite.not_inRange {v : Json} (h : GivesNonFinite v) {x : Binary64} (hx : Denotes v x) (bound : Nat) :
    ¬ x.InRange bound := by
  cases h with
  | text hbefore hspells hafter =>
    obtain ⟨y, hread, hfinite⟩ := hspells.exists_read?
    obtain rfl := hx.unique (denotes_padded hbefore (fun _ => hspells.not_isSpace) hafter hread)
    rintro ⟨hx, -⟩
    rw [hfinite] at hx
    cases hx

theorem GivesInteger.ne_null {v : Json} {i : Int} (h : GivesInteger v i) : v ≠ .null := by
  rintro rfl
  cases h

/-- Rounding leaves a natural number as it is. -/
theorem floor_natCast_add_half (n : Nat) : ⌊(n : ℚ) + 1 / 2⌋₊ = n := by
  rw [Nat.floor_eq_iff (by positivity)]
  constructor <;> linarith

/-- An integer is a size if it is one of 32 bits, and is the size itself. -/
theorem GivesInteger.isSize_iff {v : Json} {i : Int} (h : GivesInteger v i) {k : Nat} :
    IsSize v k ↔ (0 ≤ i ∧ i ≤ 2 ^ 32 - 1) ∧ k = i.toNat := by
  obtain ⟨x, hx, hnearest⟩ := h.exists_denotes
  -- Up to `2^53` integers are numbers themselves, and `2^32 - 1` is far below.
  have hrange : x.InRange (2 ^ 32 - 1) ↔ 0 ≤ i ∧ i ≤ 2 ^ 32 - 1 := by
    rw [hnearest.inRange_iff (by decide), Binary64.nearest_le_iff (by decide)]
    omega
  have hvalue (hi : x.InRange (2 ^ 32 - 1)) : ⌊x.toRat + 1 / 2⌋₊ = i.toNat := by
    obtain ⟨hlow, hhigh⟩ := hrange.mp hi
    rw [hnearest.toRat_of_nonneg hi.1 hlow, floor_natCast_add_half, Binary64.nearest_of_lt (by omega)]
    omega
  constructor
  · rintro ⟨y, hy, hi, rfl⟩
    obtain rfl := hx.unique hy
    exact ⟨hrange.mp hi, hvalue hi⟩
  · rintro ⟨hi, rfl⟩
    exact ⟨x, hx, hrange.mpr hi, (hvalue (hrange.mpr hi)).symm⟩

/-- An integer is an age if it is not far above the largest one, and is read as the number nearest to it. -/
theorem GivesInteger.isAge_iff {v : Json} {i : Int} (h : GivesInteger v i) {k : Nat} :
    IsAge v k ↔ (0 ≤ i ∧ i ≤ 2 ^ 64 + 2 ^ 11) ∧ k = min (Binary64.nearest i.toNat) maxAge := by
  obtain ⟨x, hx, hnearest⟩ := h.exists_denotes
  -- Numbers above `2^64` stand `2^12` apart, and half of that is still rounded down.
  have hrange : x.InRange (2 ^ 64) ↔ 0 ≤ i ∧ i ≤ 2 ^ 64 + 2 ^ 11 := by
    rw [hnearest.inRange_iff (by decide), Binary64.nearest_le_two_pow_64_iff]
    omega
  have hvalue (hi : x.InRange (2 ^ 64)) : ⌊x.toRat + 1 / 2⌋₊ = Binary64.nearest i.toNat := by
    obtain ⟨hlow, -⟩ := hrange.mp hi
    have habs : i.natAbs = i.toNat := by omega
    rw [hnearest.toRat_of_nonneg hi.1 hlow, floor_natCast_add_half, habs]
  constructor
  · rintro ⟨y, hy, hi, rfl⟩
    obtain rfl := hx.unique hy
    exact ⟨hrange.mp hi, by rw [hvalue hi]⟩
  · rintro ⟨hi, rfl⟩
    exact ⟨x, hx, hrange.mpr hi, by rw [hvalue (hrange.mpr hi)]⟩

end OEmbed

end LinkEmbed
