import GraphLink.Rounding
import Mathlib.Algebra.Order.Ring.Unbundled.Rat
import Mathlib.Algebra.Order.Field.Basic
import Mathlib.Algebra.Order.AbsoluteValue.Basic
import Mathlib.Data.Rat.Cast.Order
import Mathlib.Tactic.Linarith
import Mathlib.Tactic.Positivity
import Mathlib.Tactic.Ring

/-! # Nearest whole numbers

    `RoundsTo q n` says what rounding comes to, and not how it is done: no whole number is nearer to
    `q` than `n`, and if another one is just as near, then `n` is even.  One number is like that and
    no other (`RoundsTo.unique`), and rounding a quotient finds it (`roundsTo_roundHalfEven`).

    What does not exceed a whole number is not rounded beyond it (`RoundsTo.le_of_le`). -/

namespace GraphLink

variable {q : ℚ} {a b k n n' : ℕ} {m : ℤ}

/-- Whether `n` is the whole number nearest to `q`, and the even one where two are equally near. -/
structure RoundsTo (q : ℚ) (n : ℕ) : Prop where
  nearest : ∀ m : ℤ, |q - n| ≤ |q - m|
  tiesToEven : ∀ m : ℤ, m ≠ n → |q - m| = |q - n| → n % 2 = 0

namespace RoundsTo

/-- Two nearest numbers cannot differ: half-way between them both would have to be even. -/
theorem not_lt (h : RoundsTo q n) (h' : RoundsTo q n') : ¬ n < n' := by
  intro hlt
  have heq : |q - n| = |q - n'| := le_antisymm (h.nearest n') (h'.nearest n)
  have hcast : (n : ℚ) < n' := Nat.cast_lt.mpr hlt
  -- Both are equally near, so `q` lies half-way, both are even, and `n + 1` is nearer.
  have hmid : 2 * q = n + n' := by
    rcases abs_eq_abs.mp heq with hsame | hopposite
    · linarith
    · linarith
  have heven : n % 2 = 0 := h.tiesToEven n' (by exact_mod_cast hlt.ne') heq.symm
  have heven' : n' % 2 = 0 := h'.tiesToEven n (by exact_mod_cast hlt.ne) heq
  have hgap : (n : ℚ) + 2 ≤ n' := by exact_mod_cast (by omega : n + 2 ≤ n')
  have hnear := h.nearest (n + 1)
  push_cast at hnear
  rw [abs_of_nonneg (by linarith), abs_of_nonneg (by linarith)] at hnear
  linarith

/-- **ONE NUMBER AND NO OTHER** is what rounding comes to. -/
theorem unique (h : RoundsTo q n) (h' : RoundsTo q n') : n = n' :=
  Nat.le_antisymm (Nat.not_lt.mp (h'.not_lt h)) (Nat.not_lt.mp (h.not_lt h'))

/-- Rounding never passes a whole number. -/
theorem le_of_le (h : RoundsTo q n) (hq : q ≤ k) : n ≤ k := by
  by_contra hlt
  have hcast : (k : ℚ) < n := Nat.cast_lt.mpr (Nat.not_le.mp hlt)
  have hnear := h.nearest k
  push_cast at hnear
  rw [abs_of_nonpos (by linarith), abs_of_nonpos (by linarith)] at hnear
  linarith

end RoundsTo

/-- Next to a number within half a unit all others are at least half a unit away. -/
theorem half_le_abs_of_ne (h : |q - n| ≤ 1 / 2) (hne : m ≠ n) : 1 / 2 ≤ |q - m| := by
  have hapart : (1 : ℚ) ≤ |(m : ℚ) - n| := by
    exact_mod_cast Int.one_le_abs (sub_ne_zero.mpr hne)
  have htriangle : |(m : ℚ) - n| ≤ |(m : ℚ) - q| + |q - n| := abs_sub_le _ _ _
  rw [abs_sub_comm (m : ℚ) q] at htriangle
  linarith

/-- Within half a unit, and even at exactly half a unit, a number is the nearest. -/
theorem roundsTo_of_le_half (h : |q - n| ≤ 1 / 2) (heven : |q - n| = 1 / 2 → n % 2 = 0) :
    RoundsTo q n := by
  constructor
  · intro m
    by_cases hm : m = n
    · rw [hm, Int.cast_natCast]
    · exact h.trans (half_le_abs_of_ne h hm)
  · intro m hm heq
    exact heven (le_antisymm h (heq ▸ half_le_abs_of_ne h hm))

/-- A whole number is rounded to itself. -/
theorem roundsTo_natCast (n : ℕ) : RoundsTo n n := by
  refine roundsTo_of_le_half ?_ ?_
  · rw [sub_self, abs_zero]
    exact one_half_pos.le
  · intro h
    rw [sub_self, abs_zero] at h
    exact absurd h one_half_pos.ne

/-- The two inequalities between integers say that a quotient is within half a unit. -/
theorem abs_div_sub_le_half (hb : 0 < b) (hlow : b * (2 * n) ≤ 2 * a + b)
    (hhigh : 2 * a ≤ b * (2 * n + 1)) : |(a / b : ℚ) - n| ≤ 1 / 2 := by
  have hbq : (0 : ℚ) < b := Nat.cast_pos.mpr hb
  have hlowq : (b : ℚ) * (2 * n) ≤ 2 * a + b := by exact_mod_cast hlow
  have hhighq : (2 : ℚ) * a ≤ b * (2 * n + 1) := by exact_mod_cast hhigh
  rw [div_sub' hbq.ne', abs_div, abs_of_pos hbq, div_le_iff₀ hbq, abs_le]
  constructor
  · linarith
  · linarith

/-- Half-way between two whole numbers the remainder is half the divisor. -/
theorem two_mul_mod_of_half (h : 2 * a = b * (2 * k + 1)) (hb : 0 < b) : 2 * (a % b) = b := by
  have hsplit : b * (2 * k + 1) = b + 2 * b * k := by ring
  rw [← Nat.mul_mod_mul_left, h, hsplit, Nat.add_mul_mod_self_left, Nat.mod_eq_of_lt (by omega)]

/-- At exactly half a unit the remainder is half the divisor. -/
theorem two_mul_mod_of_abs_eq_half (hb : 0 < b) (h : |(a / b : ℚ) - n| = 1 / 2) :
    2 * (a % b) = b := by
  have hbq : (0 : ℚ) < b := Nat.cast_pos.mpr hb
  rw [div_sub' hbq.ne', abs_div, abs_of_pos hbq, div_eq_iff hbq.ne', abs_eq (by positivity)] at h
  rcases h with habove | hbelow
  · have hnat : 2 * a = b * (2 * n + 1) := by
      have hq : (2 : ℚ) * a = b * (2 * n + 1) := by linarith
      exact_mod_cast hq
    exact two_mul_mod_of_half hnat hb
  · have hnat : 2 * a + b = b * (2 * n) := by
      have hq : (2 : ℚ) * a + b = b * (2 * n) := by linarith
      exact_mod_cast hq
    cases n with
    | zero => omega
    | succ n =>
        refine two_mul_mod_of_half (k := n) ?_ hb
        have hsplit : b * (2 * (n + 1)) = b * (2 * n + 1) + b := by ring
        omega

/-- **A QUOTIENT IS ROUNDED TO THE NEAREST WHOLE NUMBER**, a tie to the even one. -/
theorem roundsTo_roundHalfEven (a : ℕ) (hb : 0 < b) : RoundsTo (a / b) (roundHalfEven a b) := by
  obtain ⟨hhigh, hlow⟩ := roundHalfEven_near a hb
  refine roundsTo_of_le_half (abs_div_sub_le_half hb hlow hhigh) ?_
  intro htie
  exact roundHalfEven_even (two_mul_mod_of_abs_eq_half hb htie)

end GraphLink
