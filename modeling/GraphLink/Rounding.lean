/-! # Rounding a quotient to the nearest integer

    `roundHalfEven a b` is the integer nearest to `a / b`, and of two equally near ones the even
    one.  Both facts are stated without division, on `2 * b * n` against `2 * a`:
    the error is at most half a unit (`roundHalfEven_near`), and at exactly half a unit the result
    is even (`roundHalfEven_even`). -/

namespace GraphLink

/-- The integer nearest to `a / b`; a tie goes to the even one. -/
def roundHalfEven (a b : Nat) : Nat :=
  let q := a / b
  let r := a % b
  if 2 * r < b then q
  else if b < 2 * r then q + 1
  else if q % 2 = 0 then q else q + 1

/-- **WITHIN HALF A UNIT**: `|2n - 2a/b| ≤ 1`, cleared of the denominator. -/
theorem roundHalfEven_near (a : Nat) {b : Nat} (hb : 0 < b) :
    2 * a ≤ b * (2 * roundHalfEven a b + 1) ∧ b * (2 * roundHalfEven a b) ≤ 2 * a + b := by
  have hdiv := Nat.div_add_mod a b
  have hmod := Nat.mod_lt a hb
  have e1 : b * (2 * (a / b) + 1) = 2 * (b * (a / b)) + b := by
    rw [Nat.mul_add, Nat.mul_one, Nat.mul_left_comm]
  have e2 : b * (2 * (a / b)) = 2 * (b * (a / b)) := Nat.mul_left_comm ..
  have e3 : b * (2 * (a / b + 1) + 1) = 2 * (b * (a / b)) + 3 * b := by
    rw [show 2 * (a / b + 1) + 1 = 2 * (a / b) + 3 by omega, Nat.mul_add, Nat.mul_left_comm,
      Nat.mul_comm b 3]
  have e4 : b * (2 * (a / b + 1)) = 2 * (b * (a / b)) + 2 * b := by
    rw [show 2 * (a / b + 1) = 2 * (a / b) + 2 by omega, Nat.mul_add, Nat.mul_left_comm,
      Nat.mul_comm b 2]
  simp only [roundHalfEven]
  split
  · omega
  · split
    · omega
    · split <;> omega

/-- **TIES GO TO EVEN**: if `a / b` lies half-way between two integers, the result is even. -/
theorem roundHalfEven_even {a b : Nat} (h : 2 * (a % b) = b) : roundHalfEven a b % 2 = 0 := by
  simp only [roundHalfEven, h, Nat.lt_irrefl, if_false]
  split <;> omega

end GraphLink
