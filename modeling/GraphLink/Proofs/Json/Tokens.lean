import GraphLink.Json.Reader
import GraphLink.Json.Writer
import Mathlib.Data.List.Basic

/-! # Strings and integers in JSON are read back

    A character stands in a string for itself, behind a backslash, or as a code of four digits
    (`WrittenAs`).  Whichever it is, nothing of it closes the string, and it is read as the
    character; so a string is read back up to its closing quote whatever follows
    (`readString_writeString`).

    A number goes on as long as it can, so it is read back only in front of something that it
    cannot go on with.  What follows a value in a text is a comma, a closing bracket or nothing
    (`IsDelimited`), and in front of these every integer is read back, as an integer and not as a
    float (`readNumber_intText`). -/

namespace GraphLink.Json

variable {c : Char} {cs ds rest : List Char} {n : Nat}

-- ── Strings ────────────────────────────────────────────────────────

/-- How a character can be written in a string. -/
inductive WrittenAs (c : Char) : List Char → Prop where
  | escaped {e : Char} (h : simpleEscape e = some c) : WrittenAs c ['\\', e]
  | code {x y : Char} (hx : x ≠ '"' ∧ x ≠ '\\') (hy : y ≠ '"' ∧ y ≠ '\\')
      (hcode : readHex4 '0' '0' x y = some c.toNat) (hlow : c.toNat < 0x20) :
      WrittenAs c ['\\', 'u', '0', '0', x, y]
  | itself (hquote : c ≠ '"') (hbackslash : c ≠ '\\') (hprintable : 0x20 ≤ c.toNat) :
      WrittenAs c [c]

/-- A digit of a code neither closes a string nor begins another escape. -/
theorem digitChar_ne : ∀ d < 16, Nat.digitChar d ≠ '"' ∧ Nat.digitChar d ≠ '\\' := by
  decide

/-- The code of a control character is read as its number. -/
theorem readHex4_control : ∀ n < 0x20,
    readHex4 '0' '0' (Nat.digitChar (n / 16)) (Nat.digitChar (n % 16)) = some n := by
  decide

/-- A character is written in one of these ways. -/
theorem writtenAs_escapeChar (c : Char) : WrittenAs c (escapeChar c) := by
  unfold escapeChar
  split
  case h_8 hquote hbackslash _ _ _ _ _ =>
    split
    case isTrue hlow =>
      exact .code (digitChar_ne _ (by omega)) (digitChar_ne _ (by omega))
        (readHex4_control _ hlow) hlow
    case isFalse hlow => exact .itself hquote hbackslash (by omega)
  all_goals exact .escaped rfl

/-- A character that is neither a quote nor a backslash is passed over. -/
theorem cutString_cons (hquote : c ≠ '"') (hbackslash : c ≠ '\\') :
    cutString (c :: cs) = (cutString cs).map (fun p => (c :: p.1, p.2)) := by
  rw [cutString]
  · exact hquote
  · intro d rest h
    exact absurd h hbackslash

/-- A written character does not close the string. -/
theorem WrittenAs.cutString_append (h : WrittenAs c ds) (cs : List Char) :
    cutString (ds ++ cs) = (cutString cs).map (fun p => (ds ++ p.1, p.2)) := by
  cases h with
  | escaped _ => rfl
  | @code x y hx hy _ _ =>
      show (cutString ('0' :: '0' :: x :: y :: cs)).map _ = _
      rw [cutString_cons (by decide) (by decide), cutString_cons (by decide) (by decide),
        cutString_cons hx.1 hx.2, cutString_cons hy.1 hy.2]
      cases cutString cs <;> rfl
  | itself hquote hbackslash _ => exact cutString_cons hquote hbackslash

/-- A printable character that is no backslash stands for itself. -/
theorem unescape_cons (hbackslash : c ≠ '\\') (hprintable : 0x20 ≤ c.toNat) :
    unescape (c :: cs) = (unescape cs).map (c :: ·) := by
  rw [unescape]
  · exact if_neg (not_or.mpr ⟨hbackslash, by omega⟩)
  · intro _ _ _ _ _ h
    exact absurd h hbackslash
  · intro _ _ h
    exact absurd h hbackslash

/-- A written character is read as the character. -/
theorem WrittenAs.unescape_append (h : WrittenAs c ds) (cs : List Char) :
    unescape (ds ++ cs) = (unescape cs).map (c :: ·) := by
  cases h with
  | @escaped e h =>
      show unescape ('\\' :: e :: cs) = _
      rw [unescape, h]
      rintro _ _ _ _ _ rfl
      cases h
  | @code x y _ _ hcode hlow =>
      show unescape ('\\' :: 'u' :: '0' :: '0' :: x :: y :: cs) = _
      have hhigh : isHighSurrogate c.toNat = false := by
        simp only [isHighSurrogate]
        simp
        omega
      have hlowSurrogate : isLowSurrogate c.toNat = false := by
        simp only [isLowSurrogate]
        simp
        omega
      rw [unescape, hcode]
      simp only [hhigh, hlowSurrogate, Char.ofNat_toNat]
      rfl
  | itself _ hbackslash hprintable => exact unescape_cons hbackslash hprintable

/-- A written text goes on up to the closing quote. -/
theorem cutString_escape (cs rest : List Char) :
    cutString (cs.flatMap escapeChar ++ '"' :: rest) = some (cs.flatMap escapeChar, rest) := by
  induction cs with
  | nil => rfl
  | cons c cs ih =>
      rw [List.flatMap_cons, List.append_assoc, (writtenAs_escapeChar c).cutString_append, ih]
      rfl

/-- A written text is read as the text. -/
theorem unescape_escape (cs : List Char) : unescape (cs.flatMap escapeChar) = some cs := by
  induction cs with
  | nil => rfl
  | cons c cs ih =>
      rw [List.flatMap_cons, (writtenAs_escapeChar c).unescape_append, ih]
      rfl

/-- **A STRING IS READ BACK**, whatever characters it has and whatever follows it. -/
theorem readString_writeString (s : String) (rest : List Char) :
    ∃ cs, writeString s ++ rest = '"' :: cs ∧ readString cs = some (s, rest) := by
  refine ⟨s.toList.flatMap escapeChar ++ '"' :: rest, ?_, ?_⟩
  · rw [writeString, List.cons_append, List.cons_append, List.append_assoc]
    rfl
  · simp only [readString, cutString_escape, unescape_escape, bind, Option.bind, pure,
      String.ofList_toList]

-- ── Integers ───────────────────────────────────────────────────────

/-- Whether a text can follow a value: it begins with a comma or a closing bracket, or is empty. -/
def IsDelimited (cs : List Char) : Prop :=
  ∀ c ∈ cs.head?, c = ',' ∨ c = ']' ∨ c = '\x7d'

/-- The digits of a number end in front of what can follow a value. -/
theorem cutDigits_append (hdigits : ∀ c ∈ cs, c.isDigit = true) (hrest : IsDelimited rest) :
    cutDigits (cs ++ rest) = (cs, rest) := by
  have htake : rest.takeWhile Char.isDigit = [] := by
    cases rest with
    | nil => rfl
    | cons c rest => rcases hrest c rfl with rfl | rfl | rfl <;> rfl
  have hdrop : rest.dropWhile Char.isDigit = rest := by
    cases rest with
    | nil => rfl
    | cons c rest => rcases hrest c rfl with rfl | rfl | rfl <;> rfl
  rw [cutDigits, List.takeWhile_append_of_pos hdigits, List.dropWhile_append_of_pos hdigits, htake,
    hdrop, List.append_nil]

/-- What can follow a value is no fraction. -/
theorem readFraction_of_isDelimited (hrest : IsDelimited rest) :
    readFraction rest = some ([], rest) := by
  cases rest with
  | nil => rfl
  | cons c rest => rcases hrest c rfl with rfl | rfl | rfl <;> rfl

/-- What can follow a value is no exponent. -/
theorem readExponent_of_isDelimited (hrest : IsDelimited rest) :
    readExponent rest = some (none, rest) := by
  cases rest with
  | nil => rfl
  | cons c rest => rcases hrest c rfl with rfl | rfl | rfl <;> rfl

/-- No numeral begins with a zero, except the one of zero. -/
theorem eq_zero_of_head?_decimal (h : (Text.decimal n).head? = some '0') : n = 0 := by
  induction n using Nat.strongRecOn with
  | _ n ih =>
      rw [Text.decimal] at h
      by_cases hn : n < 10
      · have table : ∀ n < 10, (Nat.toDigits 10 n).head? = some '0' → n = 0 := by decide
        exact table n hn h
      · have hn : 10 ≤ n := Nat.le_of_not_lt hn
        rw [Nat.toDigits_of_base_le (by decide) hn,
          List.head?_append_of_ne_nil _ Nat.toDigits_ne_nil] at h
        have hzero : n / 10 = 0 := ih (n / 10) (by omega) h
        omega

/-- A written numeral is read as an integer, never as a float. -/
theorem readUnsigned_decimal (negative : Bool) (n : Nat) (hrest : IsDelimited rest) :
    readUnsigned negative (Text.decimal n ++ rest)
      = (ofInteger negative n).map (fun content => (content, rest)) := by
  have hdigits : ∀ c ∈ Text.decimal n, c.isDigit = true := Text.forall_mem_decimal (by decide) n
  have hleading : ¬ ((Text.decimal n).head? = some '0' ∧ (Text.decimal n).length ≠ 1) := by
    rintro ⟨hhead, hlength⟩
    rw [eq_zero_of_head?_decimal hhead] at hlength
    exact hlength rfl
  simp only [readUnsigned, cutDigits_append hdigits hrest, if_neg hleading, Text.readNat_decimal,
    readFraction_of_isDelimited hrest, readExponent_of_isDelimited hrest, bind, Option.bind]
  cases ofInteger negative n <;> rfl

/-- An integer of 64 bits is no float, not even at the limits. -/
theorem ofInteger_natAbs (i : Int64) :
    ofInteger (decide (i.toInt < 0)) i.toInt.natAbs = some (.integer i.toInt) := by
  have hmin : Int64.minValue.toInt ≤ i.toInt := Int64.minValue_le_toInt i
  have hmax : i.toInt ≤ 9223372036854775807 := Int64.toInt_le i
  have hsize : UInt64.size = 18446744073709551616 := rfl
  have hvalue : (if decide (i.toInt < 0) = true then -(i.toInt.natAbs : Int) else i.toInt.natAbs)
      = i.toInt := by
    by_cases hneg : i.toInt < 0
    · rw [if_pos (decide_eq_true hneg)]
      omega
    · rw [if_neg (by simpa using hneg)]
      omega
  simp only [ofInteger, hvalue]
  rw [if_neg]
  simp only [Bool.or_eq_true, Bool.and_eq_true, decide_eq_true_eq, beq_iff_eq]
  omega

/-- Without a sign a number is not negative. -/
theorem readNumber_of_ne (h : c ≠ '-') : readNumber (c :: cs) = readUnsigned false (c :: cs) := by
  rw [readNumber]
  intro _ heq
  exact h (List.cons.inj heq).1

/-- **AN INTEGER IS READ BACK** as an integer, in front of what can follow a value. -/
theorem readNumber_intText (i : Int64) (hrest : IsDelimited rest) :
    readNumber ((Value.intText i).toList ++ rest) = some (.integer i.toInt, rest) := by
  have hinteger := ofInteger_natAbs i
  rw [Value.intText]
  by_cases hneg : i.toInt < 0
  · rw [if_pos hneg, String.toList_ofList, List.cons_append, readNumber,
      readUnsigned_decimal true _ hrest]
    rw [decide_eq_true hneg] at hinteger
    rw [hinteger]
    rfl
  · rw [if_neg hneg, String.toList_ofList]
    rw [decide_eq_false hneg] at hinteger
    cases hdecimal : Text.decimal i.toInt.natAbs with
    | nil => exact absurd hdecimal (Text.decimal_ne_nil _)
    | cons c cs =>
        have hdigit : c ≠ '-' := by
          have hne := Text.forall_mem_decimal (p := (· ≠ '-')) (by decide) i.toInt.natAbs
          exact hne c (hdecimal ▸ List.mem_cons_self)
        rw [List.cons_append, readNumber_of_ne hdigit, ← List.cons_append, ← hdecimal,
          readUnsigned_decimal false _ hrest, hinteger]
        rfl

end GraphLink.Json
