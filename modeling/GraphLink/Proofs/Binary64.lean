import GraphLink.Binary64.Basic
import Mathlib.Algebra.Order.Field.Basic
import Mathlib.Algebra.Order.Field.Power
import Mathlib.Data.Rat.Cast.Order
import Mathlib.Tactic.FieldSimp
import Mathlib.Tactic.Linarith
import Mathlib.Tactic.Ring

/-! # The numbers that bit patterns denote

    The sixty-four bits of a floating-point number are a sign, eleven bits of exponent and fifty-two
    of fraction, and `value?` reads off the rational number that they denote by the rules of the
    format; infinities and NaNs denote none.  Counting in units comes to the same
    (`value?_of_isFinite`), and so does comparing with zero and with whole numbers.

    From `2 ^ 53` on every number is whole (`whole_or_small`), so below a large whole number there
    is a gap (`units_le_of_lt`). -/

namespace GraphLink.Binary64

variable {x : Binary64} {q : ℚ} {n : ℕ}

/-- The bit of the sign. -/
def signField (x : Binary64) : ℕ :=
  x.bits.toNat / Nat.pow 2 63

/-- The bits of the exponent. -/
def exponentField (x : Binary64) : ℕ :=
  x.bits.toNat / Nat.pow 2 52 % Nat.pow 2 11

/-- The bits of the fraction. -/
def fractionField (x : Binary64) : ℕ :=
  x.bits.toNat % Nat.pow 2 52

/-- The number that the bits denote: with the least exponent a fraction, and with any other one the
    fraction beyond one, scaled and with a sign; with the greatest exponent there is none. -/
def value? (x : Binary64) : Option ℚ :=
  if x.exponentField = 2047 then none
  else if x.exponentField = 0 then
    some ((-1) ^ x.signField * (2 ^ (-1022 : ℤ) * (x.fractionField / 2 ^ 52)))
  else
    some ((-1) ^ x.signField
      * (2 ^ ((x.exponentField : ℤ) - 1023) * (1 + x.fractionField / 2 ^ 52)))

/-- The sign bit is the sign. -/
theorem signField_eq_zero_iff : x.signField = 0 ↔ x.isNegative = false := by
  have hlt := x.bits.toNat_lt
  rw [signField, isNegative, decide_eq_false_iff_not]
  show x.bits.toNat / 9223372036854775808 = 0 ↔ ¬ 9223372036854775808 ≤ x.bits.toNat
  omega

theorem signField_le_one (x : Binary64) : x.signField ≤ 1 := by
  have hlt := x.bits.toNat_lt
  show x.bits.toNat / 9223372036854775808 ≤ 1
  omega

/-- The exponent stands above the fraction. -/
theorem exponentField_eq (x : Binary64) :
    x.exponentField = x.magnitudeBits / Nat.pow 2 52 := by
  show x.bits.toNat / 4503599627370496 % 2048
    = x.bits.toNat % 9223372036854775808 / 4503599627370496
  omega

/-- The fraction is what the exponent leaves of the magnitude. -/
theorem fractionField_eq (x : Binary64) : x.fractionField = x.magnitudeBits % Nat.pow 2 52 := by
  show x.bits.toNat % 4503599627370496 = x.bits.toNat % 9223372036854775808 % 4503599627370496
  omega

/-- A pattern is finite unless all bits of its exponent are set. -/
theorem isFinite_iff : x.isFinite = true ↔ x.exponentField ≠ 2047 := by
  rw [isFinite, decide_eq_true_iff]
  show x.bits.toNat % 9223372036854775808 < 9218868437227405312
    ↔ x.bits.toNat / 4503599627370496 % 2048 ≠ 2047
  omega

/-- The magnitude in units of the smallest number: the fraction alone below the normal numbers, and
    from there on with the implied bit, doubled for every further step of the exponent. -/
theorem units_eq (x : Binary64) :
    x.units = if x.exponentField = 0 then x.fractionField
      else (Nat.pow 2 52 + x.fractionField) * Nat.pow 2 (x.exponentField - 1) := by
  rw [exponentField_eq, fractionField_eq]
  rfl

theorem two_pow_pos (k : ℕ) : 0 < Nat.pow 2 k :=
  Nat.pow_pos (by decide)

theorem cast_two_pow (k : ℕ) : (Nat.pow 2 k : ℚ) = 2 ^ k :=
  Nat.cast_pow 2 k

/-- One as a power; the exponent is a variable, so that nothing tries to multiply it out. -/
theorem exists_one_eq : ∃ k, one = Nat.pow 2 k ∧ k = 1022 + 52 := by
  delta one
  with_reducible exact ⟨_, rfl, rfl⟩

theorem one_pos : 0 < one := by
  obtain ⟨k, hone, -⟩ := exists_one_eq
  rw [hone]
  exact two_pow_pos k

/-- The units that make up one, as the powers of the exponent and of the fraction. -/
theorem cast_one : (one : ℚ) = 2 ^ 1022 * 2 ^ 52 := by
  obtain ⟨k, hone, hk⟩ := exists_one_eq
  rw [hone, cast_two_pow, hk, pow_add]

/-- **COUNTING IN UNITS**: what a finite number denotes is its units, with its sign. -/
theorem value?_of_isFinite (h : x.isFinite = true) :
    x.value? = some ((-1 : ℚ) ^ x.signField * (x.units / one)) := by
  rw [value?, if_neg (isFinite_iff.mp h), units_eq, cast_one]
  by_cases hzero : x.exponentField = 0
  · rw [if_pos hzero, if_pos hzero, zpow_neg, show (1022 : ℤ) = (1022 : ℕ) from rfl, zpow_natCast]
    congr 2
    field_simp
  · obtain ⟨e, he⟩ := Nat.exists_eq_succ_of_ne_zero hzero
    have hscale : (2 : ℚ) ^ (((e + 1 : ℕ) : ℤ) - 1023) = 2 ^ e / 2 ^ 1022 := by
      rw [show ((e + 1 : ℕ) : ℤ) - 1023 = (e : ℤ) - (1022 : ℕ) by push_cast; ring,
        zpow_sub₀ two_ne_zero, zpow_natCast, zpow_natCast]
    have hunits : (((Nat.pow 2 52 + x.fractionField) * Nat.pow 2 e : ℕ) : ℚ)
        = (2 ^ 52 + x.fractionField) * 2 ^ e := by
      rw [Nat.cast_mul, Nat.cast_add, cast_two_pow, cast_two_pow]
    rw [if_neg hzero, if_neg hzero, he, Nat.succ_eq_add_one, Nat.add_sub_cancel, hscale, hunits]
    congr 2
    field_simp

/-- Only a finite pattern denotes a number. -/
theorem isFinite_of_value? (h : x.value? = some q) : x.isFinite = true := by
  rw [isFinite_iff]
  intro hfield
  rw [value?, if_pos hfield] at h
  cases h

/-- A number that is not negative, or is a zero of either sign, denotes its units. -/
theorem value?_of_nonneg (hfinite : x.isFinite = true)
    (hsign : x.isNegative = false ∨ x.units = 0) : x.value? = some (x.units / one : ℚ) := by
  rw [value?_of_isFinite hfinite]
  rcases hsign with hpositive | hzero
  · rw [signField_eq_zero_iff.mpr hpositive, pow_zero, one_mul]
  · rw [hzero, Nat.cast_zero, zero_div, mul_zero]

/-- A number that is not negative has no sign, or it is the negative zero. -/
theorem sign_of_value?_nonneg (h : x.value? = some q) (hq : 0 ≤ q) :
    x.isNegative = false ∨ x.units = 0 := by
  rw [← signField_eq_zero_iff]
  by_contra hneither
  obtain ⟨hsign, hunits⟩ := not_or.mp hneither
  have hone : x.signField = 1 := by
    have hle := x.signField_le_one
    omega
  have hpos : (0 : ℚ) < x.units / one :=
    div_pos (Nat.cast_pos.mpr (Nat.pos_of_ne_zero hunits)) (Nat.cast_pos.mpr one_pos)
  rw [value?_of_isFinite (isFinite_of_value? h), hone] at h
  cases h
  linarith

/-- **LARGE NUMBERS ARE WHOLE**: there is no room for a fraction from `2 ^ 53` on. -/
theorem whole_or_small (x : Binary64) : one ∣ x.units ∨ x.units < Nat.pow 2 53 * one := by
  obtain ⟨k, hone, -⟩ := exists_one_eq
  have hfraction : x.fractionField < Nat.pow 2 52 := Nat.mod_lt _ (by decide)
  rw [units_eq]
  by_cases hzero : x.exponentField = 0
  · rw [if_pos hzero]
    refine .inr (Nat.lt_of_lt_of_le hfraction ?_)
    exact Nat.le_trans (by decide) (Nat.le_mul_of_pos_right (Nat.pow 2 53) one_pos)
  · rw [if_neg hzero]
    by_cases hlarge : k ≤ x.exponentField - 1
    · rw [hone]
      exact .inl (Nat.dvd_mul_left_of_dvd (Nat.pow_dvd_pow 2 hlarge) _)
    · refine .inr ?_
      calc (Nat.pow 2 52 + x.fractionField) * Nat.pow 2 (x.exponentField - 1)
          ≤ (Nat.pow 2 52 + x.fractionField) * one := by
            rw [hone]
            exact Nat.mul_le_mul_left _ (Nat.pow_le_pow_right (by decide) (by omega))
        _ < Nat.pow 2 53 * one := by
            refine Nat.mul_lt_mul_of_pos_right ?_ one_pos
            show 4503599627370496 + x.fractionField < 9007199254740992
            exact Nat.add_lt_add_left hfraction _

/-- What is below a large whole number does not exceed the one before it. -/
theorem units_le_of_lt (hn : Nat.pow 2 53 < n) (h : x.units < n * one) :
    x.units ≤ (n - 1) * one := by
  rcases x.whole_or_small with ⟨k, hk⟩ | hsmall
  · rw [hk, Nat.mul_comm one k] at h ⊢
    exact Nat.mul_le_mul_right one (Nat.le_sub_one_of_lt (Nat.lt_of_mul_lt_mul_right h))
  · exact Nat.le_of_lt (Nat.lt_of_lt_of_le hsmall
      (Nat.mul_le_mul_right one (Nat.le_sub_one_of_lt hn)))

/-- Comparing with a whole number is comparing units. -/
theorem div_one_le_iff : (x.units / one : ℚ) ≤ n ↔ x.units ≤ n * one := by
  rw [div_le_iff₀ (Nat.cast_pos.mpr one_pos), ← Nat.cast_mul, Nat.cast_le]

theorem div_one_lt_iff : (x.units / one : ℚ) < n ↔ x.units < n * one := by
  rw [div_lt_iff₀ (Nat.cast_pos.mpr one_pos), ← Nat.cast_mul, Nat.cast_lt]

end GraphLink.Binary64
