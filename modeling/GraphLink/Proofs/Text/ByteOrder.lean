import GraphLink.Text.Utf8

/-! # The order of texts is the order of their bytes

    Texts are compared character by character and bytes are compared one by one, and both come to
    the same (`utf8_lt_utf8`).  A character of more bytes is above every one of fewer, and so is its
    first byte; of two characters with as many bytes the groups of six bits are compared from the
    top, and the highest that differs decides. -/

namespace GraphLink.Text

variable {a b n m : Nat} {c d : Char} {cs ds : List Char} {xs ys : List UInt8}

/-- A lower first byte decides. -/
theorem ofNat_cons_lt (hlt : a < b) (hb : b < 256) :
    UInt8.ofNat a :: xs < UInt8.ofNat b :: ys := by
  refine List.cons_lt_cons_iff.mpr (.inl ?_)
  rw [UInt8.lt_iff_toNat_lt, UInt8.toNat_ofNat_of_lt' (show a < 256 by omega),
    UInt8.toNat_ofNat_of_lt' hb]
  exact hlt

/-- Behind a common first byte the rest decides. -/
theorem cons_lt_of_lt (x : UInt8) (h : xs < ys) : x :: xs < x :: ys :=
  List.cons_lt_cons_iff.mpr (.inr ⟨rfl, h⟩)

/-- The last group decides if all above it are the same. -/
theorem group_lt (hlt : n < m) (hsame : n / 64 = m / 64) :
    UInt8.ofNat (0x80 + n % 64) :: xs < UInt8.ofNat (0x80 + m % 64) :: ys :=
  ofNat_cons_lt (by omega) (by omega)

/-- Two groups of six bits decide if all above them is the same. -/
theorem two_groups_lt (hlt : n < m) (hsame : n / 4096 = m / 4096) :
    UInt8.ofNat (0x80 + n / 64 % 64) :: UInt8.ofNat (0x80 + n % 64) :: xs
      < UInt8.ofNat (0x80 + m / 64 % 64) :: UInt8.ofNat (0x80 + m % 64) :: ys := by
  by_cases hgroup : n / 64 = m / 64
  · rw [hgroup]
    exact cons_lt_of_lt _ (group_lt hlt hgroup)
  · exact ofNat_cons_lt (by omega) (by omega)

/-- Three groups of six bits decide if all above them is the same. -/
theorem three_groups_lt (hlt : n < m) (hsame : n / 262144 = m / 262144) :
    UInt8.ofNat (0x80 + n / 4096 % 64) :: UInt8.ofNat (0x80 + n / 64 % 64)
        :: UInt8.ofNat (0x80 + n % 64) :: xs
      < UInt8.ofNat (0x80 + m / 4096 % 64) :: UInt8.ofNat (0x80 + m / 64 % 64)
        :: UInt8.ofNat (0x80 + m % 64) :: ys := by
  by_cases hgroup : n / 4096 = m / 4096
  · rw [hgroup]
    exact cons_lt_of_lt _ (two_groups_lt hlt hgroup)
  · exact ofNat_cons_lt (by omega) (by omega)

/-- No bytes come before any. -/
theorem nil_lt_of_ne_nil (h : xs ≠ []) : [] < xs := by
  cases xs with
  | nil => exact absurd rfl h
  | cons x xs => exact List.nil_lt_cons x xs

/-- **THE BYTES OF A LOWER CHARACTER ARE LOWER**, whatever stands behind them. -/
theorem utf8EncodeChar_append_lt (h : c < d) (xs ys : List UInt8) :
    String.utf8EncodeChar c ++ xs < String.utf8EncodeChar d ++ ys := by
  have hlt : c.toNat < d.toNat := h
  have hvalid : d.toNat < 0xD800 ∨ 0xDFFF < d.toNat ∧ d.toNat < 0x110000 := d.valid
  simp only [utf8EncodeChar_eq]
  generalize c.toNat = n at hlt
  generalize d.toNat = m at hlt hvalid
  -- The cases are the numbers of bytes of the higher character.  Fewer bytes begin lower; with as
  -- many, the first byte decides, or else the groups behind it.
  by_cases hone : m < 0x80
  · rw [if_pos hone, if_pos (by omega)]
    exact ofNat_cons_lt hlt (by omega)
  rw [if_neg hone]
  by_cases htwo : m < 0x800
  · rw [if_pos htwo]
    by_cases hshort : n < 0x80
    · rw [if_pos hshort]
      exact ofNat_cons_lt (by omega) (by omega)
    · rw [if_neg hshort, if_pos (by omega)]
      by_cases hlead : n / 64 = m / 64
      · rw [hlead]
        exact cons_lt_of_lt _ (group_lt hlt hlead)
      · exact ofNat_cons_lt (by omega) (by omega)
  rw [if_neg htwo]
  by_cases hthree : m < 0x10000
  · rw [if_pos hthree]
    by_cases hshort : n < 0x800
    · split <;> exact ofNat_cons_lt (by omega) (by omega)
    · rw [if_neg (by omega), if_neg hshort, if_pos (by omega)]
      by_cases hlead : n / 4096 = m / 4096
      · rw [hlead]
        exact cons_lt_of_lt _ (two_groups_lt hlt hlead)
      · exact ofNat_cons_lt (by omega) (by omega)
  rw [if_neg hthree]
  by_cases hshort : n < 0x10000
  · split
    · exact ofNat_cons_lt (by omega) (by omega)
    · split <;> exact ofNat_cons_lt (by omega) (by omega)
  · rw [if_neg (by omega), if_neg (by omega), if_neg hshort]
    by_cases hlead : n / 262144 = m / 262144
    · rw [hlead]
      exact cons_lt_of_lt _ (three_groups_lt hlt hlead)
    · exact ofNat_cons_lt (by omega) (by omega)

/-- **THE ORDER OF TEXTS IS THE ORDER OF THEIR BYTES.** -/
theorem utf8_lt_utf8 (h : cs < ds) : utf8 cs < utf8 ds := by
  induction cs generalizing ds with
  | nil =>
      cases ds with
      | nil => cases h
      | cons d ds =>
          exact nil_lt_of_ne_nil
            (List.append_ne_nil_of_left_ne_nil String.utf8EncodeChar_ne_nil _)
  | cons c cs ih =>
      cases ds with
      | nil => cases h
      | cons d ds =>
          rcases List.cons_lt_cons_iff.mp h with hlt | ⟨rfl, hlt⟩
          · exact utf8EncodeChar_append_lt hlt _ _
          · exact List.append_left_lt (ih hlt)

end GraphLink.Text
