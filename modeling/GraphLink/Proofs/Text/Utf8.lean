import GraphLink.Text.Utf8

/-! # Written as UTF-8, read back

    The bytes of a text are read as that text (`readUtf8_utf8`).  A character of several bytes is
    cut into groups of six bits, and every byte behind the first adds one group.  So what has been
    read of a character is its code point divided by a power of 64, and every further byte undoes
    one division (`readUtf8From_one_more`, `readUtf8From_two_more`, `readUtf8From_three_more`).  It
    remains to see that the first byte announces the right number of others, and that the narrower
    range behind some first bytes shuts out no character. -/

namespace GraphLink.Text

variable {bits following low high n : Nat} {b : UInt8} {c : Char}

/-- A byte of a character that is not the last one. -/
theorem readUtf8From_next (hb : low ≤ b.toNat ∧ b.toNat ≤ high) (hmore : following ≠ 0)
    (bs : List UInt8) :
    readUtf8From (some ⟨bits, following + 1, low, high⟩) (b :: bs)
      = readUtf8From (some ⟨bits * 64 + (b.toNat - 0x80), following, 0x80, 0xBF⟩) bs := by
  rw [readUtf8From]
  show (if low ≤ b.toNat ∧ b.toNat ≤ high then _ else _) = _
  rw [if_pos hb]
  show (if following + 1 = 1 then _ else _) = _
  rw [if_neg (by omega), Nat.add_sub_cancel]

/-- The last byte of a character. -/
theorem readUtf8From_last (hb : low ≤ b.toNat ∧ b.toNat ≤ high) (bs : List UInt8) :
    readUtf8From (some ⟨bits, 1, low, high⟩) (b :: bs)
      = Char.ofNat (bits * 64 + (b.toNat - 0x80)) :: readUtf8From none bs := by
  rw [readUtf8From]
  show (if low ≤ b.toNat ∧ b.toNat ≤ high then _ else _) = _
  rw [if_pos hb]
  rfl

/-- The byte that holds the last group of six bits. -/
theorem toNat_group (n : Nat) : (UInt8.ofNat (0x80 + n % 64)).toNat = 0x80 + n % 64 :=
  UInt8.toNat_ofNat_of_lt' (show 0x80 + n % 64 < 256 by omega)

/-- A last group puts the code point together. -/
theorem group_value (n : Nat) : n / 64 * 64 + (0x80 + n % 64 - 0x80) = n := by
  omega

/-- With one byte to come, that byte completes the character. -/
theorem readUtf8From_one_more (hfirst : low ≤ 0x80 + c.toNat % 64 ∧ 0x80 + c.toNat % 64 ≤ high)
    (bs : List UInt8) :
    readUtf8From (some ⟨c.toNat / 64, 1, low, high⟩) (UInt8.ofNat (0x80 + c.toNat % 64) :: bs)
      = c :: readUtf8From none bs := by
  rw [readUtf8From_last (by rwa [toNat_group]), toNat_group, group_value, Char.ofNat_toNat]

/-- With two bytes to come, these bytes complete the character. -/
theorem readUtf8From_two_more
    (hfirst : low ≤ 0x80 + c.toNat / 64 % 64 ∧ 0x80 + c.toNat / 64 % 64 ≤ high)
    (bs : List UInt8) :
    readUtf8From (some ⟨c.toNat / 4096, 2, low, high⟩)
        (UInt8.ofNat (0x80 + c.toNat / 64 % 64) :: UInt8.ofNat (0x80 + c.toNat % 64) :: bs)
      = c :: readUtf8From none bs := by
  have hbits : c.toNat / 4096 = c.toNat / 64 / 64 := by omega
  rw [readUtf8From_next (by rwa [toNat_group]) (by decide), toNat_group, hbits, group_value]
  exact readUtf8From_one_more (by omega) bs

/-- With three bytes to come, these bytes complete the character. -/
theorem readUtf8From_three_more
    (hfirst : low ≤ 0x80 + c.toNat / 4096 % 64 ∧ 0x80 + c.toNat / 4096 % 64 ≤ high)
    (bs : List UInt8) :
    readUtf8From (some ⟨c.toNat / 262144, 3, low, high⟩)
        (UInt8.ofNat (0x80 + c.toNat / 4096 % 64) :: UInt8.ofNat (0x80 + c.toNat / 64 % 64)
          :: UInt8.ofNat (0x80 + c.toNat % 64) :: bs)
      = c :: readUtf8From none bs := by
  have hbits : c.toNat / 262144 = c.toNat / 4096 / 64 := by omega
  rw [readUtf8From_next (by rwa [toNat_group]) (by decide), toNat_group, hbits, group_value]
  exact readUtf8From_two_more (by omega) bs

/-- A first byte that announces others. -/
theorem readUtf8From_lead {lead : Lead} (h : Lead.ofByte b = some lead) (hb : 0x80 ≤ b.toNat)
    (bs : List UInt8) : readUtf8From none (b :: bs) = readUtf8From (some lead) bs := by
  rw [readUtf8From, if_neg (Nat.not_lt.mpr hb), h]

/-- The first byte of two announces one more, of the full range. -/
theorem ofByte_two (hlow : 0x80 ≤ n) (hhigh : n < 0x800) :
    Lead.ofByte (UInt8.ofNat (0xC0 + n / 64)) = some ⟨n / 64, 1, 0x80, 0xBF⟩ := by
  have hbyte : (UInt8.ofNat (0xC0 + n / 64)).toNat = 0xC0 + n / 64 :=
    UInt8.toNat_ofNat_of_lt' (show 0xC0 + n / 64 < 256 by omega)
  simp only [Lead.ofByte, hbyte]
  rw [if_pos (by omega), Nat.add_sub_cancel_left]

/-- The range behind a first byte of three shuts out overlong forms and surrogates only. -/
theorem ofByte_three (hlow : 0x800 ≤ n) (hhigh : n < 0x10000) (hvalid : n.isValidChar) :
    ∃ low high, Lead.ofByte (UInt8.ofNat (0xE0 + n / 4096)) = some ⟨n / 4096, 2, low, high⟩
      ∧ low ≤ 0x80 + n / 64 % 64 ∧ 0x80 + n / 64 % 64 ≤ high := by
  have hbyte : (UInt8.ofNat (0xE0 + n / 4096)).toNat = 0xE0 + n / 4096 :=
    UInt8.toNat_ofNat_of_lt' (show 0xE0 + n / 4096 < 256 by omega)
  have hvalid : n < 0xD800 ∨ 0xDFFF < n ∧ n < 0x110000 := hvalid
  simp only [Lead.ofByte, hbyte]
  rw [if_neg (by omega)]
  by_cases hoverlong : n / 4096 = 0
  · rw [if_pos (by omega), hoverlong]
    exact ⟨0xA0, 0xBF, rfl, by omega, by omega⟩
  · rw [if_neg (by omega)]
    by_cases hsurrogate : n / 4096 = 0xD
    · rw [if_pos (by omega), hsurrogate]
      exact ⟨0x80, 0x9F, rfl, by omega, by omega⟩
    · rw [if_neg (by omega), if_pos (by omega), Nat.add_sub_cancel_left]
      exact ⟨0x80, 0xBF, rfl, by omega, by omega⟩

/-- The range behind a first byte of four shuts out overlong forms and what is above the last code
    point only. -/
theorem ofByte_four (hlow : 0x10000 ≤ n) (hvalid : n.isValidChar) :
    ∃ low high, Lead.ofByte (UInt8.ofNat (0xF0 + n / 262144)) = some ⟨n / 262144, 3, low, high⟩
      ∧ low ≤ 0x80 + n / 4096 % 64 ∧ 0x80 + n / 4096 % 64 ≤ high := by
  have hvalid : n < 0xD800 ∨ 0xDFFF < n ∧ n < 0x110000 := hvalid
  have hbyte : (UInt8.ofNat (0xF0 + n / 262144)).toNat = 0xF0 + n / 262144 :=
    UInt8.toNat_ofNat_of_lt' (show 0xF0 + n / 262144 < 256 by omega)
  simp only [Lead.ofByte, hbyte]
  rw [if_neg (by omega), if_neg (by omega), if_neg (by omega), if_neg (by omega)]
  by_cases hoverlong : n / 262144 = 0
  · rw [if_pos (by omega), hoverlong]
    exact ⟨0x90, 0xBF, rfl, by omega, by omega⟩
  · rw [if_neg (by omega)]
    by_cases hlast : n / 262144 = 4
    · rw [if_neg (by omega), if_pos (by omega), hlast]
      exact ⟨0x80, 0x8F, rfl, by omega, by omega⟩
    · rw [if_pos (by omega), Nat.add_sub_cancel_left]
      exact ⟨0x80, 0xBF, rfl, by omega, by omega⟩

/-- **A CHARACTER IS READ BACK** from its bytes, whatever stands behind them. -/
theorem readUtf8_utf8EncodeChar_append (c : Char) (bs : List UInt8) :
    readUtf8 (String.utf8EncodeChar c ++ bs) = c :: readUtf8 bs := by
  have hvalid : c.toNat.isValidChar := c.valid
  rw [utf8EncodeChar_eq, readUtf8, readUtf8]
  -- The cases are the lengths; each first byte announces how many bytes are still to come.
  by_cases hone : c.toNat < 0x80
  · have hbyte : (UInt8.ofNat c.toNat).toNat = c.toNat :=
      UInt8.toNat_ofNat_of_lt' (show c.toNat < 256 by omega)
    rw [if_pos hone]
    show readUtf8 (UInt8.ofNat c.toNat :: bs) = c :: readUtf8 bs
    rw [readUtf8_cons_of_lt (by rwa [hbyte]), hbyte, Char.ofNat_toNat]
  · rw [if_neg hone]
    by_cases htwo : c.toNat < 0x800
    · rw [if_pos htwo]
      refine (readUtf8From_lead (ofByte_two (by omega) htwo) ?_ _).trans
        (readUtf8From_one_more (by omega) bs)
      rw [UInt8.toNat_ofNat']
      omega
    · rw [if_neg htwo]
      by_cases hthree : c.toNat < 0x10000
      · obtain ⟨low, high, hlead, hfirst⟩ := ofByte_three (by omega) hthree hvalid
        rw [if_pos hthree]
        refine (readUtf8From_lead hlead ?_ _).trans (readUtf8From_two_more hfirst bs)
        rw [UInt8.toNat_ofNat']
        omega
      · obtain ⟨low, high, hlead, hfirst⟩ := ofByte_four (by omega) hvalid
        have hvalid : c.toNat < 0xD800 ∨ 0xDFFF < c.toNat ∧ c.toNat < 0x110000 := hvalid
        rw [if_neg hthree]
        refine (readUtf8From_lead hlead ?_ _).trans (readUtf8From_three_more hfirst bs)
        rw [UInt8.toNat_ofNat']
        omega

/-- **WHAT IS WRITTEN AS UTF-8 IS READ BACK.** -/
theorem readUtf8_utf8 (cs : List Char) : readUtf8 (utf8 cs) = cs := by
  induction cs with
  | nil => rfl
  | cons c cs ih => rw [utf8_cons, readUtf8_utf8EncodeChar_append, ih]

end GraphLink.Text
