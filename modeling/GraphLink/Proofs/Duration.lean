import GraphLink.Proofs.Binary64
import GraphLink.Proofs.Rounding
import GraphLink.Value.Basic
import Mathlib.Tactic.NormNum

/-! # Numbers of seconds as durations

    A floating-point number of seconds is a duration if the number that it denotes is not negative
    and below `2 ^ 64`, and then it is that number of nanoseconds, rounded once
    (`ofSeconds_eq_some_iff`).  Rounding never leads out of the range: numbers near its end are
    whole.

    A whole number of seconds needs no rounding, so it is the same duration as the floating-point
    number that denotes it (`Value.asDuration_rounds_once`). -/

namespace GraphLink

variable {x : Binary64} {q : ℚ} {n : ℕ} {d : Duration} {i : Int64}

namespace Duration

/-- Below `2 ^ 64` seconds every number of nanoseconds is a duration. -/
theorem exists_ofNanos? (h : n < Nat.pow 2 64 * nanosPerSecond) :
    ∃ d, ofNanos? n = some d ∧ d.totalNanos = n :=
  ⟨⟨n, h⟩, dif_pos h, rfl⟩

/-- A duration is determined by its nanoseconds. -/
theorem ofNanos?_eq_some_iff : ofNanos? n = some d ↔ d.totalNanos = n := by
  constructor
  · intro h
    rw [ofNanos?] at h
    split at h
    · cases h
      rfl
    · cases h
  · rintro rfl
    exact dif_pos d.inRange

/-- A duration falls into whole seconds and what is beyond them. -/
theorem totalNanos_eq (d : Duration) :
    d.totalNanos = d.wholeSeconds * nanosPerSecond + d.subsecNanos :=
  (Nat.div_add_mod' d.totalNanos nanosPerSecond).symm

theorem wholeSeconds_lt (d : Duration) : d.wholeSeconds < Nat.pow 2 64 :=
  Nat.div_lt_of_lt_mul (Nat.mul_comm _ nanosPerSecond ▸ d.inRange)

theorem cast_nanosPerSecond : (nanosPerSecond : ℚ) = 10 ^ 9 := by
  norm_num [nanosPerSecond]

/-- The bound of durations, in units and as a number. -/
theorem units_lt_iff :
    x.units < Nat.pow 2 64 * Binary64.one ↔ (x.units / Binary64.one : ℚ) < 2 ^ 64 := by
  rw [← Binary64.cast_two_pow, Binary64.div_one_lt_iff]

/-- The nanoseconds of a number of seconds are rounded once, from the exact product. -/
theorem roundsTo_nanos (x : Binary64) : RoundsTo (x.units / Binary64.one * 10 ^ 9)
    (roundHalfEven (x.units * nanosPerSecond) Binary64.one) := by
  rw [← cast_nanosPerSecond, div_mul_eq_mul_div, ← Nat.cast_mul]
  exact roundsTo_roundHalfEven _ Binary64.one_pos

/-- **ROUNDING STAYS IN RANGE**: what is below the end of the range is at most the last second. -/
theorem roundHalfEven_lt (h : x.units < Nat.pow 2 64 * Binary64.one) :
    roundHalfEven (x.units * nanosPerSecond) Binary64.one < Nat.pow 2 64 * nanosPerSecond := by
  have hunits : x.units ≤ (Nat.pow 2 64 - 1) * Binary64.one :=
    Binary64.units_le_of_lt (by decide) h
  have hq : (x.units / Binary64.one : ℚ) * 10 ^ 9 ≤ ((Nat.pow 2 64 - 1) * nanosPerSecond : ℕ) := by
    rw [Nat.cast_mul, cast_nanosPerSecond]
    exact mul_le_mul_of_nonneg_right (Binary64.div_one_le_iff.mpr hunits) (by positivity)
  have hlast : (Nat.pow 2 64 - 1) * nanosPerSecond < Nat.pow 2 64 * nanosPerSecond := by decide
  exact Nat.lt_of_le_of_lt ((roundsTo_nanos x).le_of_le hq) hlast

/-- A number of seconds within the bounds is a duration. -/
theorem ofSeconds_of_value? (h : x.value? = some q) (hq : 0 ≤ q) (hlt : q < 2 ^ 64) :
    ∃ d, ofSeconds x = some d ∧ RoundsTo (q * 10 ^ 9) d.totalNanos := by
  have hfinite := Binary64.isFinite_of_value? h
  have hsign := Binary64.sign_of_value?_nonneg h hq
  cases h.symm.trans (Binary64.value?_of_nonneg hfinite hsign)
  have hunits := units_lt_iff.mpr hlt
  have hcond : (x.isFinite && (!x.isNegative || x.units == 0)
      && decide (x.units < Nat.pow 2 64 * Binary64.one)) = true := by
    rw [Bool.and_eq_true, Bool.and_eq_true, Bool.or_eq_true, Bool.not_eq_true', beq_iff_eq,
      decide_eq_true_iff]
    exact ⟨⟨hfinite, hsign⟩, hunits⟩
  obtain ⟨d, hd, hnanos⟩ := exists_ofNanos? (roundHalfEven_lt hunits)
  refine ⟨d, ?_, ?_⟩
  · rw [ofSeconds, if_pos hcond]
    exact hd
  · rw [hnanos]
    exact roundsTo_nanos x

/-- Only a number of seconds within the bounds is a duration. -/
theorem exists_value?_of_ofSeconds (h : ofSeconds x = some d) :
    ∃ q, x.value? = some q ∧ 0 ≤ q ∧ q < 2 ^ 64 := by
  rw [ofSeconds] at h
  split at h
  · rename_i hcond
    rw [Bool.and_eq_true, Bool.and_eq_true, Bool.or_eq_true, Bool.not_eq_true', beq_iff_eq,
      decide_eq_true_iff] at hcond
    obtain ⟨⟨hfinite, hsign⟩, hunits⟩ := hcond
    have hq : (0 : ℚ) ≤ x.units / Binary64.one := div_nonneg (Nat.cast_nonneg _) (Nat.cast_nonneg _)
    exact ⟨_, Binary64.value?_of_nonneg hfinite hsign, hq, units_lt_iff.mp hunits⟩
  · cases h

/-- Which durations floating-point seconds come to: the one with the nearest number of nanoseconds,
    if the number is within the bounds. -/
theorem ofSeconds_eq_some_iff : ofSeconds x = some d ↔ ∃ q, x.value? = some q ∧ 0 ≤ q
    ∧ q < 2 ^ 64 ∧ RoundsTo (q * 10 ^ 9) d.totalNanos := by
  constructor
  · intro h
    obtain ⟨q, hvalue, hq, hlt⟩ := exists_value?_of_ofSeconds h
    obtain ⟨d', hd', hrounds⟩ := ofSeconds_of_value? hvalue hq hlt
    cases h.symm.trans hd'
    exact ⟨q, hvalue, hq, hlt, hrounds⟩
  · rintro ⟨q, hvalue, hq, hlt, hrounds⟩
    obtain ⟨d', hd', hrounds'⟩ := ofSeconds_of_value? hvalue hq hlt
    rw [hd', Option.some.injEq]
    cases d
    cases d'
    cases hrounds.unique hrounds'
    rfl

end Duration

namespace Value

/-- Which durations whole seconds come to: the exact one, if they are not negative. -/
theorem asDuration_int_eq_some_iff : (Value.int i).asDuration = some d ↔
    0 ≤ i.toInt ∧ (d.totalNanos : ℤ) = i.toInt * nanosPerSecond := by
  rw [asDuration]
  by_cases hi : 0 ≤ i.toInt
  · rw [if_pos hi, Duration.ofNanos?_eq_some_iff, and_iff_right hi, ← Int.ofNat_inj, Nat.cast_mul,
      Int.toNat_of_nonneg hi]
  · rw [if_neg hi]
    exact iff_of_false (by simp) (fun h => hi h.1)

/-- A number that is whole and in range is rounded to itself. -/
theorem roundsTo_seconds_iff (hi : 0 ≤ i.toInt) :
    RoundsTo (i.toInt * 10 ^ 9) n ↔ (n : ℤ) = i.toInt * nanosPerSecond := by
  obtain ⟨k, hk⟩ := Int.eq_ofNat_of_zero_le hi
  have hexact : RoundsTo ((k : ℤ) * 10 ^ 9) (k * nanosPerSecond) := by
    rw [← Duration.cast_nanosPerSecond, Int.cast_natCast, ← Nat.cast_mul]
    exact roundsTo_natCast _
  rw [hk, ← Nat.cast_mul, Nat.cast_inj]
  constructor
  · intro h
    exact h.unique hexact
  · rintro rfl
    exact hexact

/-- The way in which a number of seconds is written makes no difference. -/
theorem asDuration_int_eq_float (h : x.value? = some (i.toInt : ℚ)) :
    (Value.int i).asDuration = (Value.float x).asDuration := by
  refine Option.ext (fun d => ?_)
  rw [asDuration_int_eq_some_iff]
  show _ ↔ Duration.ofSeconds x = some d
  rw [Duration.ofSeconds_eq_some_iff]
  constructor
  · rintro ⟨hi, hd⟩
    have hlt : i.toInt < 2 ^ 64 := lt_trans i.toInt_lt (by norm_num)
    refine ⟨_, h, by exact_mod_cast hi, by exact_mod_cast hlt, ?_⟩
    exact (roundsTo_seconds_iff hi).mpr hd
  · rintro ⟨q, hvalue, hq, -, hrounds⟩
    cases h.symm.trans hvalue
    have hi : 0 ≤ i.toInt := by exact_mod_cast hq
    exact ⟨hi, (roundsTo_seconds_iff hi).mp hrounds⟩

/-- **SECONDS ARE ROUNDED ONCE.**  A floating-point number is a duration exactly if it denotes a
    number that is neither negative nor `2 ^ 64` or more, and then the duration is the whole number
    of nanoseconds nearest to it, the even one if two are equally near.  An integer is a duration
    exactly if it is not negative, and then it is that many seconds.  The nanoseconds beyond the
    whole seconds of a duration never make up another second.  An integer and a floating-point
    number that denotes it are the same duration. -/
theorem asDuration_rounds_once :
    (∀ x d, (Value.float x).asDuration = some d ↔ ∃ q, x.value? = some q ∧ 0 ≤ q ∧ q < 2 ^ 64
        ∧ RoundsTo (q * 10 ^ 9) d.totalNanos)
      ∧ (∀ x, (∃ d, (Value.float x).asDuration = some d)
          ↔ ∃ q, x.value? = some q ∧ 0 ≤ q ∧ q < 2 ^ 64)
      ∧ (∀ i d, (Value.int i).asDuration = some d
          ↔ 0 ≤ i.toInt ∧ (d.totalNanos : ℤ) = i.toInt * nanosPerSecond)
      ∧ (∀ i, (∃ d, (Value.int i).asDuration = some d) ↔ 0 ≤ i.toInt)
      ∧ (∀ d : Duration, d.totalNanos = d.wholeSeconds * nanosPerSecond + d.subsecNanos
          ∧ d.subsecNanos < nanosPerSecond ∧ d.wholeSeconds < Nat.pow 2 64)
      ∧ ∀ (i : Int64) (x : Binary64), x.value? = some (i.toInt : ℚ) →
          (Value.int i).asDuration = (Value.float x).asDuration := by
  refine ⟨fun x d => Duration.ofSeconds_eq_some_iff, ?_, fun i d => asDuration_int_eq_some_iff, ?_,
    fun d => ⟨d.totalNanos_eq, d.subsecNanos_lt, d.wholeSeconds_lt⟩,
    fun i x => asDuration_int_eq_float⟩
  -- Whether there is a duration is the range of the number; rounding never adds a condition.
  · intro x
    constructor
    · rintro ⟨d, hd⟩
      exact Duration.exists_value?_of_ofSeconds hd
    · rintro ⟨q, hvalue, hq, hlt⟩
      obtain ⟨d, hd, -⟩ := Duration.ofSeconds_of_value? hvalue hq hlt
      exact ⟨d, hd⟩
  · intro i
    constructor
    · rintro ⟨d, hd⟩
      exact (asDuration_int_eq_some_iff.mp hd).1
    · intro hi
      exact Option.isSome_iff_exists.mp (isSome_asDuration_int hi)

/-- Half a nanosecond goes to the even side, down from `1 / 1024` seconds and up from `3 / 1024`. -/
example : (Value.float ⟨0x3F50000000000000⟩).asDuration = Duration.ofNanos? 976562
    ∧ (Value.float ⟨0x3F68000000000000⟩).asDuration = Duration.ofNanos? 2929688 := by
  decide +kernel

end Value
end GraphLink
