/-! # UTF-8 — writing characters as bytes and reading bytes back

    `utf8` writes a text as bytes.  `readUtf8` reads any bytes at all: where they are not the
    encoding of a character, the longest run of bytes that could have begun one is replaced by one
    U+FFFD, and reading goes on behind it.  No byte is lost silently and none is read twice. -/

namespace GraphLink.Text

/-- The bytes of a character by the number of them.  The first byte needs no mask, because the code
    point is below the bound of its length. -/
theorem utf8EncodeChar_eq (c : Char) :
    String.utf8EncodeChar c =
      if c.toNat < 0x80 then [UInt8.ofNat c.toNat]
      else if c.toNat < 0x800 then
        [UInt8.ofNat (0xC0 + c.toNat / 64), UInt8.ofNat (0x80 + c.toNat % 64)]
      else if c.toNat < 0x10000 then
        [UInt8.ofNat (0xE0 + c.toNat / 4096), UInt8.ofNat (0x80 + c.toNat / 64 % 64),
          UInt8.ofNat (0x80 + c.toNat % 64)]
      else
        [UInt8.ofNat (0xF0 + c.toNat / 262144), UInt8.ofNat (0x80 + c.toNat / 4096 % 64),
          UInt8.ofNat (0x80 + c.toNat / 64 % 64), UInt8.ofNat (0x80 + c.toNat % 64)] := by
  have hvalid : c.toNat < 0xD800 ∨ 0xDFFF < c.toNat ∧ c.toNat < 0x110000 := c.valid
  rw [String.utf8EncodeChar, Char.toNat_val]
  generalize c.toNat = n at hvalid
  by_cases hone : n < 0x80
  · rw [if_pos hone, if_pos (Nat.le_of_lt_succ hone)]
  rw [if_neg hone, if_neg (fun hle => hone (Nat.lt_succ_of_le hle))]
  by_cases htwo : n < 0x800
  · have hlead : n / 64 % 0x20 + 0xC0 = 0xC0 + n / 64 := by omega
    rw [if_pos htwo, if_pos (Nat.le_of_lt_succ htwo), hlead, Nat.add_comm (n % 64)]
  rw [if_neg htwo, if_neg (fun hle => htwo (Nat.lt_succ_of_le hle))]
  by_cases hthree : n < 0x10000
  · have hlead : n / 4096 % 0x10 + 0xE0 = 0xE0 + n / 4096 := by omega
    rw [if_pos hthree, if_pos (Nat.le_of_lt_succ hthree), hlead, Nat.add_comm (n / 64 % 64),
      Nat.add_comm (n % 64)]
  · have hlead : n / 262144 % 8 + 0xF0 = 0xF0 + n / 262144 := by omega
    rw [if_neg hthree, if_neg (fun hle => hthree (Nat.lt_succ_of_le hle)), hlead,
      Nat.add_comm (n / 4096 % 64), Nat.add_comm (n / 64 % 64), Nat.add_comm (n % 64)]

/-- The bytes of a text. -/
def utf8 (cs : List Char) : List UInt8 :=
  cs.flatMap String.utf8EncodeChar

@[simp] theorem utf8_nil : utf8 [] = [] := rfl

@[simp] theorem utf8_cons (c : Char) (cs : List Char) :
    utf8 (c :: cs) = String.utf8EncodeChar c ++ utf8 cs :=
  rfl

@[simp] theorem utf8_append (xs ys : List Char) : utf8 (xs ++ ys) = utf8 xs ++ utf8 ys :=
  List.flatMap_append

/-- The character that stands for bytes that are not the encoding of one. -/
def replacement : Char := '\uFFFD'

/-- What a leading byte announces: how many bytes follow it, and the range in which the first of
    these must lie.  The range is narrower than that of the later ones where a wider one would
    admit an overlong form, a surrogate or a number above the last code point. -/
structure Lead where
  /-- The payload bits of the leading byte. -/
  bits : Nat
  /-- The number of bytes that follow. -/
  following : Nat
  /-- The least value of the first of them. -/
  low : Nat
  /-- The greatest value of the first of them. -/
  high : Nat
  deriving Repr, DecidableEq

/-- Reads a leading byte; `none` for a byte that begins no character of two bytes or more. -/
def Lead.ofByte (b : UInt8) : Option Lead :=
  let n := b.toNat
  if 0xC2 ≤ n ∧ n ≤ 0xDF then some ⟨n - 0xC0, 1, 0x80, 0xBF⟩
  else if n = 0xE0 then some ⟨0, 2, 0xA0, 0xBF⟩
  else if n = 0xED then some ⟨0xD, 2, 0x80, 0x9F⟩
  else if 0xE1 ≤ n ∧ n ≤ 0xEF then some ⟨n - 0xE0, 2, 0x80, 0xBF⟩
  else if n = 0xF0 then some ⟨0, 3, 0x90, 0xBF⟩
  else if 0xF1 ≤ n ∧ n ≤ 0xF3 then some ⟨n - 0xF0, 3, 0x80, 0xBF⟩
  else if n = 0xF4 then some ⟨4, 3, 0x80, 0x8F⟩
  else none

/-- A character that has been begun: its bits so far, how many bytes are missing, and the range
    of the next one. -/
abbrev Begun := Lead

/-- Reads bytes.  `begun?` is the character that the bytes before `bs` have begun, if any. -/
def readUtf8From : Option Begun → List UInt8 → List Char
  | none, [] => []
  | some _, [] => [replacement]
  | none, b :: bs =>
      if b.toNat < 0x80 then Char.ofNat b.toNat :: readUtf8From none bs
      else
        match Lead.ofByte b with
        | some lead => readUtf8From (some lead) bs
        | none => replacement :: readUtf8From none bs
  | some begun, b :: bs =>
      let n := b.toNat
      if begun.low ≤ n ∧ n ≤ begun.high then
        let bits := begun.bits * 64 + (n - 0x80)
        if begun.following = 1 then Char.ofNat bits :: readUtf8From none bs
        else readUtf8From (some ⟨bits, begun.following - 1, 0x80, 0xBF⟩) bs
      else if n < 0x80 then replacement :: Char.ofNat n :: readUtf8From none bs
      else
        match Lead.ofByte b with
        | some lead => replacement :: readUtf8From (some lead) bs
        | none => replacement :: replacement :: readUtf8From none bs

/-- Reads bytes as UTF-8, with U+FFFD for what is not. -/
def readUtf8 (bs : List UInt8) : List Char :=
  readUtf8From none bs

@[simp] theorem readUtf8_nil : readUtf8 [] = [] := rfl

/-- An ASCII byte is a character of its own. -/
theorem readUtf8_cons_of_lt {b : UInt8} (h : b.toNat < 0x80) (bs : List UInt8) :
    readUtf8 (b :: bs) = Char.ofNat b.toNat :: readUtf8 bs := by
  simp [readUtf8, readUtf8From, h]

end GraphLink.Text
