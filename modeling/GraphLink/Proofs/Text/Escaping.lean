import GraphLink.Text.Percent

/-! # Escaped bytes

    Reading a URI escapes bytes of its query, and reading the query unescapes all that looks like
    an escape, whoever wrote it.  The two cancel only if escaping one byte never makes an escape of
    what stands before it, and never breaks one.

    `Escapes xs ys` says that `xs` is `ys` with some bytes escaped, each of them **inert**: neither
    the percent sign nor a hexadecimal digit.  An escape that is cut short in front of such a byte
    is cut short in front of its escape as well, since that begins with a percent sign and not with
    a digit.  So both texts of bytes are decoded alike (`Escapes.decode_eq`), and encoding the
    characters of a set whose bytes are all inert escapes bytes in this sense (`escapes_encode`). -/

namespace GraphLink.Text.Percent

variable {b h l : UInt8} {bs xs ys : List UInt8} {c : Char} {set : Char → Bool}

-- ── One escape ─────────────────────────────────────────────────────

/-- Whether a byte is neither the percent sign nor a digit. -/
def IsInert (b : UInt8) : Prop :=
  b ≠ 0x25 ∧ byteDigit b = none

instance (b : UInt8) : Decidable (IsInert b) :=
  inferInstanceAs (Decidable (_ ∧ _))

/-- A digit is one byte. -/
theorem utf8EncodeChar_digit :
    ∀ d < 16, String.utf8EncodeChar (digit d) = [UInt8.ofNat (digit d).toNat] := by
  decide

/-- The byte of a digit is read as its value. -/
theorem byteDigit_digit : ∀ d < 16, byteDigit (UInt8.ofNat (digit d).toNat) = some d := by
  decide

/-- A percent sign and the two digits of a byte are its escape. -/
theorem escaped_of_digits (hh : byteDigit h = some (b.toNat / 16))
    (hl : byteDigit l = some (b.toNat % 16)) : escaped 0x25 h l = some b := by
  have hvalue : 16 * (b.toNat / 16) + b.toNat % 16 = b.toNat := Nat.div_add_mod _ _
  rw [escaped, if_pos rfl, hh, hl]
  simp only
  rw [hvalue, UInt8.ofNat_toNat]

/-- An encoded byte is written as its escape. -/
theorem utf8_encodeByte (b : UInt8) :
    ∃ h l, utf8 (encodeByte b) = [0x25, h, l] ∧ escaped 0x25 h l = some b := by
  have hlt : b.toNat < 256 := UInt8.toNat_lt b
  have hhigh : b.toNat / 16 < 16 := by omega
  have hlow : b.toNat % 16 < 16 := by omega
  refine ⟨UInt8.ofNat (digit (b.toNat / 16)).toNat, UInt8.ofNat (digit (b.toNat % 16)).toNat,
    ?_, escaped_of_digits (byteDigit_digit _ hhigh) (byteDigit_digit _ hlow)⟩
  rw [encodeByte, utf8_cons, utf8_cons, utf8_cons, utf8EncodeChar_digit _ hhigh,
    utf8EncodeChar_digit _ hlow]
  rfl

/-- An escaped byte is decoded, whatever stands behind it. -/
theorem decode_encodeByte_append (b : UInt8) (xs : List UInt8) :
    decode (utf8 (encodeByte b) ++ xs) = b :: decode xs := by
  obtain ⟨h, l, hbytes, hescaped⟩ := utf8_encodeByte b
  rw [hbytes]
  show decode (0x25 :: h :: l :: xs) = b :: decode xs
  rw [decode, hescaped]

/-- The byte that the first two bytes are the digits of, and what follows them. -/
def digits? : List UInt8 → Option (UInt8 × List UInt8)
  | h :: l :: rest => (escaped 0x25 h l).map (fun byte => (byte, rest))
  | _ => none

/-- A percent sign is read with two digits behind it, or else stands for itself. -/
theorem decode_percent (bs : List UInt8) :
    decode (0x25 :: bs) = match digits? bs with
      | some (byte, rest) => byte :: decode rest
      | none => 0x25 :: decode bs := by
  match bs with
  | [] => rfl
  | [_] => rfl
  | h :: l :: rest =>
      rw [decode, digits?]
      cases escaped 0x25 h l <;> rfl

/-- There are no two digits if the first byte is none. -/
theorem digits?_of_first (hb : byteDigit b = none) (bs : List UInt8) :
    digits? (b :: bs) = none := by
  cases bs with
  | nil => rfl
  | cons l rest =>
      rw [digits?, escaped, if_pos rfl, hb]
      rfl

/-- There are no two digits if the second byte is none. -/
theorem digits?_of_second (hl : byteDigit l = none) (h : UInt8) (rest : List UInt8) :
    digits? (h :: l :: rest) = none := by
  rw [digits?, escaped, if_pos rfl, hl]
  cases byteDigit h <;> rfl

-- ── Some bytes escaped ─────────────────────────────────────────────

/-- The first text of bytes is the second one with some inert bytes escaped. -/
inductive Escapes : List UInt8 → List UInt8 → Prop where
  | nil : Escapes [] []
  | kept (b : UInt8) {xs ys : List UInt8} (h : Escapes xs ys) : Escapes (b :: xs) (b :: ys)
  | escaped {b : UInt8} {xs ys : List UInt8} (hb : IsInert b) (h : Escapes xs ys) :
      Escapes (utf8 (encodeByte b) ++ xs) (b :: ys)

namespace Escapes

/-- The same bytes can stand in front of both. -/
theorem append_kept (h : Escapes xs ys) (bs : List UInt8) : Escapes (bs ++ xs) (bs ++ ys) := by
  induction bs with
  | nil => exact h
  | cons b bs ih => exact .kept b ih

/-- Inert bytes can stand in front, escaped on one side. -/
theorem append_escaped (h : Escapes xs ys) (hbs : ∀ b ∈ bs, IsInert b) :
    Escapes (utf8 (bs.flatMap encodeByte) ++ xs) (bs ++ ys) := by
  induction bs with
  | nil => exact h
  | cons b bs ih =>
      obtain ⟨hb, hrest⟩ := List.forall_mem_cons.mp hbs
      rw [List.flatMap_cons, utf8_append, List.append_assoc]
      exact .escaped hb (ih hrest)

/-- Two digits stand in front of both texts or of neither. -/
theorem digits?_eq (h : Escapes xs ys) :
    (digits? xs = none ∧ digits? ys = none)
      ∨ ∃ byte xs' ys', digits? xs = some (byte, xs') ∧ digits? ys = some (byte, ys')
          ∧ Escapes xs' ys' ∧ ys'.length < ys.length := by
  have hpercent : byteDigit 0x25 = none := rfl
  -- The cases are the first two bytes: an escaped one begins with a percent sign, which is no
  -- digit, and stands for a byte that is none either.
  cases h with
  | nil => exact .inl ⟨rfl, rfl⟩
  | @escaped b xs ys hb _ =>
      obtain ⟨h, l, hbytes, -⟩ := utf8_encodeByte b
      refine .inl ⟨?_, digits?_of_first hb.2 ys⟩
      rw [hbytes]
      exact digits?_of_first hpercent _
  | kept first hrest =>
      cases hrest with
      | nil => exact .inl ⟨rfl, rfl⟩
      | @escaped b xs ys hb _ =>
          obtain ⟨h, l, hbytes, -⟩ := utf8_encodeByte b
          refine .inl ⟨?_, digits?_of_second hb.2 first ys⟩
          rw [hbytes]
          exact digits?_of_second hpercent first _
      | @kept second xs ys hrest =>
          rw [digits?, digits?]
          cases Percent.escaped 0x25 first second with
          | none => exact .inl ⟨rfl, rfl⟩
          | some byte =>
              refine .inr ⟨byte, xs, ys, rfl, rfl, hrest, ?_⟩
              simp only [List.length_cons]
              omega

/-- **ESCAPING INERT BYTES CHANGES NOTHING** in what is decoded, whatever stands between them: also
    stray percent signs and escapes that are cut short. -/
theorem decode_eq (h : Escapes xs ys) : decode xs = decode ys := by
  -- An escape that was there before takes three bytes at once, so the induction is on the length.
  induction hlength : ys.length using Nat.strongRecOn generalizing xs ys with
  | _ n ih =>
      subst hlength
      cases h with
      | nil => rfl
      | escaped hb hrest =>
          rw [decode_encodeByte_append, decode_cons_of_ne hb.1]
          exact congrArg _ (ih _ (Nat.lt_succ_self _) hrest rfl)
      | kept b hrest =>
          by_cases hb : b = 0x25
          · subst hb
            rw [decode_percent, decode_percent]
            rcases hrest.digits?_eq with ⟨hxs, hys⟩ | ⟨byte, xs', ys', hxs, hys, hbehind, hlt⟩
            · rw [hxs, hys]
              exact congrArg _ (ih _ (Nat.lt_succ_self _) hrest rfl)
            · rw [hxs, hys]
              exact congrArg _ (ih _ (Nat.lt_succ_of_lt hlt) hbehind rfl)
          · rw [decode_cons_of_ne hb, decode_cons_of_ne hb]
            exact congrArg _ (ih _ (Nat.lt_succ_self _) hrest rfl)

end Escapes

-- ── Encoded characters ─────────────────────────────────────────────

/-- Whether all bytes of the characters of an encode set are inert. -/
def TakesInert (set : Char → Bool) : Prop :=
  ∀ c, set c = true → ∀ b ∈ String.utf8EncodeChar c, IsInert b

/-- A text is encoded character by character. -/
theorem encode_cons (set : Char → Bool) (c : Char) (cs : List Char) :
    encode set (c :: cs)
      = (if set c then (String.utf8EncodeChar c).flatMap encodeByte else [c]) ++ encode set cs :=
  List.flatMap_cons

/-- **ENCODING ESCAPES BYTES**, also of a text in which other characters are replaced. -/
theorem escapes_encode (hset : TakesInert set) {f : Char → Char} (hf : ∀ c, set c = true → f c = c)
    (hpercent : f '%' = '%') (hdigit : ∀ d < 16, f (digit d) = digit d) (cs : List Char) :
    Escapes (utf8 ((encode set cs).map f)) (utf8 (cs.map f)) := by
  induction cs with
  | nil => exact .nil
  | cons c cs ih =>
      rw [encode_cons, List.map_append, utf8_append, List.map_cons, utf8_cons]
      by_cases hc : set c = true
      · have hbyte (b : UInt8) : (encodeByte b).map f = encodeByte b := by
          have hlt : b.toNat < 256 := UInt8.toNat_lt b
          simp only [encodeByte, List.map_cons, List.map_nil, hpercent,
            hdigit (b.toNat / 16) (by omega), hdigit (b.toNat % 16) (by omega)]
        rw [if_pos hc, List.map_flatMap, hf c hc]
        simp only [hbyte]
        exact ih.append_escaped (hset c hc)
      · rw [if_neg hc, List.map_singleton, utf8_cons, utf8_nil, List.append_nil]
        exact ih.append_kept (String.utf8EncodeChar (f c))

-- ── The encode set of a query ──────────────────────────────────────

/-- A character of ASCII is one byte. -/
theorem utf8EncodeChar_of_lt (h : c.toNat < 0x80) :
    String.utf8EncodeChar c = [UInt8.ofNat c.toNat] := by
  rw [utf8EncodeChar_eq]
  exact if_pos h

/-- All bytes of a character outside ASCII are outside ASCII. -/
theorem le_of_mem_utf8EncodeChar (h : 0x80 ≤ c.toNat) :
    ∀ b ∈ String.utf8EncodeChar c, 0x80 ≤ b.toNat := by
  have hlt : c.toNat < 0x110000 := by
    rcases c.valid with hlow | ⟨-, hhigh⟩
    · exact Nat.lt_trans hlow (by decide)
    · exact hhigh
  intro b hb
  simp only [utf8EncodeChar_eq, if_neg (Nat.not_lt.mpr h)] at hb
  split at hb
  · simp only [List.mem_cons, List.not_mem_nil, or_false] at hb
    rcases hb with rfl | rfl
    all_goals
      rw [UInt8.toNat_ofNat']
      omega
  · split at hb
    · simp only [List.mem_cons, List.not_mem_nil, or_false] at hb
      rcases hb with rfl | rfl | rfl
      all_goals
        rw [UInt8.toNat_ofNat']
        omega
    · simp only [List.mem_cons, List.not_mem_nil, or_false] at hb
      rcases hb with rfl | rfl | rfl | rfl
      all_goals
        rw [UInt8.toNat_ofNat']
        omega

/-- The bytes of a character outside ASCII are inert. -/
theorem isInert_of_le (h : 0x80 ≤ b.toNat) : IsInert b := by
  have table : ∀ n < 256, 0x80 ≤ n → IsInert (UInt8.ofNat n) := by
    decide +kernel
  have hb := table b.toNat (UInt8.toNat_lt b) h
  rwa [UInt8.ofNat_toNat] at hb

/-- Neither the percent sign nor a digit is encoded in a query. -/
theorem takesInert_query : TakesInert query := by
  intro c hc b hb
  by_cases hascii : c.toNat < 0x80
  · have table : ∀ n < 0x80, query (Char.ofNat n) = true → IsInert (UInt8.ofNat n) := by
      decide
    rw [utf8EncodeChar_of_lt hascii, List.mem_singleton] at hb
    rw [hb]
    refine table c.toNat hascii ?_
    rwa [Char.ofNat_toNat]
  · exact isInert_of_le (le_of_mem_utf8EncodeChar (Nat.not_lt.mp hascii) b hb)

end GraphLink.Text.Percent
