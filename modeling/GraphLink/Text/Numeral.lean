/-! # Numerals — numbers written in a base

    Numbers are written with core's `Nat.toDigits` (lower-case digits, no leading zero).  They are
    read by `readNat`, which takes one digit or more of the base, either letter case, and any
    number of leading zeros.  Reading what was written gives the number back
    (`readNat_toDigits`). -/

namespace GraphLink.Text

/-- The value of a digit, up to base 36. -/
def digitValue (base : Nat) (c : Char) : Option Nat :=
  let n := c.toNat
  let value? : Option Nat :=
    if 0x30 ≤ n ∧ n ≤ 0x39 then some (n - 0x30)
    else if 0x61 ≤ n ∧ n ≤ 0x7A then some (n - 0x61 + 10)
    else if 0x41 ≤ n ∧ n ≤ 0x5A then some (n - 0x41 + 10)
    else none
  value?.filter (· < base)

/-- Reads digits onto a number that has already been read. -/
def readDigits (base : Nat) : Nat → List Char → Option Nat
  | acc, [] => some acc
  | acc, c :: rest =>
      match digitValue base c with
      | some d => readDigits base (acc * base + d) rest
      | none => none

/-- The number that a non-empty run of digits denotes. -/
def readNat (base : Nat) : List Char → Option Nat
  | [] => none
  | cs => readDigits base 0 cs

/-- The digits of a number in base ten. -/
def decimal (n : Nat) : List Char :=
  Nat.toDigits 10 n

/-- The digits of a number in base sixteen, letters in lower case. -/
def hexadecimal (n : Nat) : List Char :=
  Nat.toDigits 16 n

/-- Digits have the values that they are written for. -/
theorem digitValue_digitChar {base d : Nat} (hb : base ≤ 16) (hd : d < base) :
    digitValue base d.digitChar = some d := by
  have table : ∀ d < 16, digitValue 16 d.digitChar = some d := by decide
  have h := table d (by omega)
  simp only [digitValue, Option.filter_eq_some_iff] at h ⊢
  exact ⟨h.1, by simpa using hd⟩

/-- Digits are read from left to right, each part going on from the one before it. -/
theorem readDigits_append (base : Nat) :
    ∀ (xs ys : List Char) (acc : Nat),
      readDigits base acc (xs ++ ys)
        = (readDigits base acc xs).bind (fun n => readDigits base n ys)
  | [], ys, acc => rfl
  | c :: xs, ys, acc => by
      simp only [List.cons_append, readDigits]
      cases digitValue base c with
      | none => rfl
      | some d => exact readDigits_append base xs ys _

/-- Digits in writing are read back, in every base up to sixteen. -/
theorem readDigits_toDigits {base : Nat} (h1 : 1 < base) (h16 : base ≤ 16) (n : Nat) :
    readDigits base 0 (Nat.toDigits base n) = some n := by
  induction n using Nat.strongRecOn with
  | _ n ih =>
      by_cases hn : n < base
      · rw [Nat.toDigits_of_lt_base hn]
        simp [readDigits, digitValue_digitChar h16 hn]
      · have hn : base ≤ n := Nat.le_of_not_lt hn
        have hlt : n % base < base := Nat.mod_lt _ (by omega)
        rw [Nat.toDigits_of_base_le h1 hn, readDigits_append,
          ih (n / base) (Nat.div_lt_self (by omega) h1)]
        simp only [Option.bind_some, readDigits, digitValue_digitChar h16 hlt]
        rw [Nat.mul_comm, Nat.div_add_mod]

/-- **WRITE, THEN READ**: the number comes back, in every base up to sixteen. -/
theorem readNat_toDigits {base : Nat} (h1 : 1 < base) (h16 : base ≤ 16) (n : Nat) :
    readNat base (Nat.toDigits base n) = some n := by
  have h := readDigits_toDigits h1 h16 n
  cases hd : Nat.toDigits base n with
  | nil => exact absurd hd Nat.toDigits_ne_nil
  | cons c rest => rw [hd] at h; exact h

theorem readNat_decimal (n : Nat) : readNat 10 (decimal n) = some n :=
  readNat_toDigits (by decide) (by decide) n

theorem readNat_hexadecimal (n : Nat) : readNat 16 (hexadecimal n) = some n :=
  readNat_toDigits (by decide) (by decide) n

/-- A number in writing consists of digits of its base. -/
theorem exists_digitChar_of_mem_toDigits {base : Nat} (h1 : 1 < base) {c : Char} (n : Nat)
    (hc : c ∈ Nat.toDigits base n) : ∃ d < base, c = d.digitChar := by
  induction n using Nat.strongRecOn with
  | _ n ih =>
      by_cases hn : n < base
      · rw [Nat.toDigits_of_lt_base hn] at hc
        exact ⟨n, hn, List.mem_singleton.mp hc⟩
      · have hn : base ≤ n := Nat.le_of_not_lt hn
        rw [Nat.toDigits_of_base_le h1 hn] at hc
        rcases List.mem_append.mp hc with hfront | hlast
        · exact ih (n / base) (Nat.div_lt_self (by omega) h1) hfront
        · exact ⟨n % base, Nat.mod_lt _ (by omega), List.mem_singleton.mp hlast⟩

/-- What holds of the ten digits holds of every character of a decimal. -/
theorem forall_mem_decimal {p : Char → Prop} (h : ∀ d < 10, p d.digitChar) (n : Nat) :
    ∀ c ∈ decimal n, p c := by
  intro c hc
  obtain ⟨d, hd, rfl⟩ := exists_digitChar_of_mem_toDigits (by decide) n hc
  exact h d hd

/-- What holds of the sixteen digits holds of every character of a hexadecimal. -/
theorem forall_mem_hexadecimal {p : Char → Prop} (h : ∀ d < 16, p d.digitChar) (n : Nat) :
    ∀ c ∈ hexadecimal n, p c := by
  intro c hc
  obtain ⟨d, hd, rfl⟩ := exists_digitChar_of_mem_toDigits (by decide) n hc
  exact h d hd

theorem decimal_ne_nil (n : Nat) : decimal n ≠ [] :=
  Nat.toDigits_ne_nil

theorem hexadecimal_ne_nil (n : Nat) : hexadecimal n ≠ [] :=
  Nat.toDigits_ne_nil

/-- Below `2 ^ 16` four hexadecimal digits are enough. -/
theorem length_hexadecimal_le {n : Nat} (h : n < 65536) : (hexadecimal n).length ≤ 4 :=
  (Nat.length_toDigits_le_iff (by decide) (by decide)).mpr h

end GraphLink.Text
