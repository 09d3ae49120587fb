import GraphLink.Text.Numeral
import GraphLink.Text.Utf8

/-! # Percent encoding

    A byte can be written as a percent sign and its two hexadecimal digits.  An **encode set**
    says which characters of a text are written so; every byte of such a character is encoded, in
    upper case.  Decoding works on bytes and takes either case; a percent sign that is not followed
    by two digits stands for itself. -/

namespace GraphLink.Text.Percent

/-- The digit of a value below sixteen, in upper case. -/
def digit (n : Nat) : Char :=
  Char.ofNat (if n < 10 then 0x30 + n else 0x37 + n)

/-- One byte, encoded. -/
def encodeByte (b : UInt8) : List Char :=
  ['%', digit (b.toNat / 16), digit (b.toNat % 16)]

/-- A text with the characters of the encode set `set` encoded. -/
def encode (set : Char → Bool) (cs : List Char) : List Char :=
  cs.flatMap (fun c => if set c then (String.utf8EncodeChar c).flatMap encodeByte else [c])

@[simp] theorem encode_nil (set : Char → Bool) : encode set [] = [] := rfl

@[simp] theorem encode_append (set : Char → Bool) (xs ys : List Char) :
    encode set (xs ++ ys) = encode set xs ++ encode set ys :=
  List.flatMap_append

/-- A text without a character of the set stays as it is. -/
theorem encode_of_forall {set : Char → Bool} :
    ∀ {cs : List Char}, (∀ c ∈ cs, set c = false) → encode set cs = cs
  | [], _ => rfl
  | c :: cs, h => by
      have ih := @encode_of_forall set cs (fun d hd => h d (List.mem_cons_of_mem _ hd))
      have hc := h c List.mem_cons_self
      simp only [encode, List.flatMap_cons, hc, Bool.false_eq_true, if_false] at ih ⊢
      rw [ih]
      rfl

/-- What is encoded does not vanish. -/
theorem encode_ne_nil (set : Char → Bool) {cs : List Char} (h : cs ≠ []) : encode set cs ≠ [] := by
  obtain ⟨c, rest, rfl⟩ := List.exists_cons_of_ne_nil h
  intro hnil
  rw [encode, List.flatMap_cons] at hnil
  have hc := (List.append_eq_nil_iff.mp hnil).1
  by_cases hset : set c = true
  · obtain ⟨b, bs, hbytes⟩ := List.exists_cons_of_ne_nil (String.utf8EncodeChar_ne_nil (c := c))
    rw [if_pos hset, hbytes] at hc
    exact nomatch hc
  · rw [if_neg hset] at hc
    exact nomatch hc

/-- What holds of the percent sign, of the digits and of every character that is kept holds of
    every character of an encoded text. -/
theorem forall_mem_encode {p : Char → Prop} {set : Char → Bool} (hpercent : p '%')
    (hdigit : ∀ d < 16, p (digit d)) {cs : List Char} (hkept : ∀ c ∈ cs, set c = false → p c) :
    ∀ c ∈ encode set cs, p c := by
  intro c hc
  obtain ⟨d, hd, hcd⟩ := List.mem_flatMap.mp hc
  by_cases hset : set d = true
  · rw [if_pos hset] at hcd
    obtain ⟨b, -, hb⟩ := List.mem_flatMap.mp hcd
    have hlt : b.toNat < 256 := UInt8.toNat_lt b
    simp only [encodeByte, List.mem_cons, List.not_mem_nil, or_false] at hb
    rcases hb with rfl | rfl | rfl
    · exact hpercent
    · exact hdigit _ (by omega)
    · exact hdigit _ (by omega)
  · rw [if_neg hset] at hcd
    have heq : c = d := List.mem_singleton.mp hcd
    subst heq
    exact hkept c hd (by simpa using hset)

/-- The value of a byte that is a hexadecimal digit. -/
def byteDigit (b : UInt8) : Option Nat :=
  digitValue 16 (Char.ofNat b.toNat)

/-- The byte that a percent sign followed by `h` and `l` stands for, if these are two digits. -/
def escaped (b h l : UInt8) : Option UInt8 :=
  if b = 0x25 then
    match byteDigit h, byteDigit l with
    | some high, some low => some (UInt8.ofNat (16 * high + low))
    | _, _ => none
  else none

/-- The bytes that an encoded text of bytes stands for. -/
def decode : List UInt8 → List UInt8
  | b :: h :: l :: rest =>
      match escaped b h l with
      | some byte => byte :: decode rest
      | none => b :: decode (h :: l :: rest)
  | short => short

@[simp] theorem decode_nil : decode [] = [] := rfl

/-- A byte other than the percent sign stands for itself. -/
theorem decode_cons_of_ne {b : UInt8} (hb : b ≠ 0x25) : ∀ bs, decode (b :: bs) = b :: decode bs
  | [] => rfl
  | [_] => rfl
  | h :: l :: rest => by simp [decode, escaped, hb]

/-- The controls and everything outside ASCII. -/
def controls (c : Char) : Bool :=
  c.toNat < 0x20 || 0x7E < c.toNat

/-- The encode set of a query: the controls, the space and the characters that delimit URIs. -/
def query (c : Char) : Bool :=
  controls c || c == ' ' || c == '"' || c == '#' || c == '<' || c == '>'

/-- The encode set of a query under a special scheme, which also takes the single quote. -/
def specialQuery (c : Char) : Bool :=
  query c || c == '\''

end GraphLink.Text.Percent
