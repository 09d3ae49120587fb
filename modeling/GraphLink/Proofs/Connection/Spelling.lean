import GraphLink.Proofs.Connection.Context
import GraphLink.Proofs.Connection.Query
import GraphLink.Proofs.Text.Utf8

/-! # Queries that spell a context

    A context can be put into a query in many ways: its entries in any order, each byte escaped with
    digits in either case, letters and digits left as they are if one likes, and stray `&` anywhere
    between the entries.  `Form.SpellsQuery` says which queries these are, part by part, and all of
    them are read as the context (`RoutingContext.parse_of_spells`).

    A spelled text holds nothing but percent signs, letters and digits (`Percent.Spells.isSafe`),
    so the query is cut where the parts were joined and no plus sign is taken for a space.  What is
    left is to decode the bytes (`Percent.Spells.decode_eq`) and to read them as the text that they
    were written from. -/

namespace GraphLink

open GraphLink.Text

-- ── Bytes ──────────────────────────────────────────────────────────

namespace Text.Percent

variable {d : Nat} {b : UInt8} {bs : List UInt8} {c : Char} {text : List Char}

/-- The digit of a value in either case. -/
inductive IsDigit (d : Nat) : Char → Prop where
  | upper : IsDigit d (digit d)
  | lower : IsDigit d (digit d).toLower

/-- The texts that stand for a byte: its escape, and a letter or digit for itself. -/
inductive SpellsByte : UInt8 → List Char → Prop where
  | escaped {b : UInt8} {high low : Char} (hhigh : IsDigit (b.toNat / 16) high)
      (hlow : IsDigit (b.toNat % 16) low) : SpellsByte b ['%', high, low]
  | plain {c : Char} (hc : c.isAlphanum = true) : SpellsByte (UInt8.ofNat c.toNat) [c]

/-- The texts that stand for bytes, one after the other. -/
inductive Spells : List UInt8 → List Char → Prop where
  | nil : Spells [] []
  | cons {b : UInt8} {bs : List UInt8} {text rest : List Char} (hb : SpellsByte b text)
      (hbs : Spells bs rest) : Spells (b :: bs) (text ++ rest)

/-- A digit in either case is one byte, and is read as its value. -/
theorem IsDigit.toByte (hd : d < 16) (h : IsDigit d c) :
    String.utf8EncodeChar c = [UInt8.ofNat c.toNat]
      ∧ byteDigit (UInt8.ofNat c.toNat) = some d := by
  cases h with
  | upper => exact ⟨utf8EncodeChar_digit d hd, byteDigit_digit d hd⟩
  | lower =>
      have table : ∀ d < 16,
          String.utf8EncodeChar (digit d).toLower = [UInt8.ofNat (digit d).toLower.toNat]
            ∧ byteDigit (UInt8.ofNat (digit d).toLower.toNat) = some d := by
        decide
      exact table d hd

/-- A digit in either case is a letter or a digit of ASCII. -/
theorem IsDigit.isAlphanum (hd : d < 16) (h : IsDigit d c) : c.isAlphanum = true := by
  have table : ∀ d < 16, (digit d).isAlphanum = true ∧ (digit d).toLower.isAlphanum = true := by
    decide
  cases h with
  | upper => exact (table d hd).1
  | lower => exact (table d hd).2

/-- Whether a character is a percent sign, a letter or a digit. -/
def IsSafe (c : Char) : Prop :=
  c = '%' ∨ c.isAlphanum = true

/-- A byte is spelled by safe characters. -/
theorem SpellsByte.isSafe (h : SpellsByte b text) : ∀ c ∈ text, IsSafe c := by
  have hlt : b.toNat < 256 := UInt8.toNat_lt b
  cases h with
  | escaped hhigh hlow =>
      simp only [List.forall_mem_cons]
      exact ⟨.inl rfl, .inr (hhigh.isAlphanum (by omega)), .inr (hlow.isAlphanum (by omega)),
        List.forall_mem_nil _⟩
  | plain hc => exact List.forall_mem_singleton.mpr (.inr hc)

/-- A spelled byte is decoded, whatever stands behind it. -/
theorem SpellsByte.decode_append (h : SpellsByte b text) (rest : List UInt8) :
    decode (utf8 text ++ rest) = b :: decode rest := by
  have hlt : b.toNat < 256 := UInt8.toNat_lt b
  cases h with
  | @escaped b high low hhigh hlow =>
      obtain ⟨hhigh, hhighdigit⟩ := hhigh.toByte (by omega)
      obtain ⟨hlow, hlowdigit⟩ := hlow.toByte (by omega)
      rw [utf8_cons, utf8_cons, utf8_cons, hhigh, hlow]
      show decode (0x25 :: UInt8.ofNat high.toNat :: UInt8.ofNat low.toNat :: rest) = _
      rw [decode, escaped_of_digits hhighdigit hlowdigit]
  | @plain c hc =>
      obtain ⟨hlow, hhigh⟩ := Uri.toNat_of_isAlphanum hc
      have hne : UInt8.ofNat c.toNat ≠ 0x25 := by
        intro heq
        have hvalue : (UInt8.ofNat c.toNat).toNat = 0x25 := congrArg UInt8.toNat heq
        rw [UInt8.toNat_ofNat_of_lt' (show c.toNat < 256 by omega)] at hvalue
        omega
      rw [utf8_cons, utf8EncodeChar_of_lt (by omega)]
      exact decode_cons_of_ne hne rest

namespace Spells

/-- Bytes are spelled by safe characters. -/
theorem isSafe (h : Spells bs text) : ∀ c ∈ text, IsSafe c := by
  induction h with
  | nil => exact List.forall_mem_nil _
  | cons hb _ ih => exact List.forall_mem_append.mpr ⟨hb.isSafe, ih⟩

/-- **SPELLED BYTES ARE DECODED**, however they are spelled. -/
theorem decode_eq (h : Spells bs text) : decode (utf8 text) = bs := by
  induction h with
  | nil => rfl
  | cons hb _ ih => rw [utf8_append, hb.decode_append, ih]

/-- All bytes can be escaped. -/
theorem exists_text (bs : List UInt8) : ∃ text, Spells bs text := by
  induction bs with
  | nil => exact ⟨[], .nil⟩
  | cons b bs ih =>
      obtain ⟨text, htext⟩ := ih
      exact ⟨encodeByte b ++ text, .cons (.escaped .upper .upper) htext⟩

end Spells
end Text.Percent

-- ── Pairs ──────────────────────────────────────────────────────────

namespace Form

open Text.Percent

variable {pair : String × String} {pairs : List (String × String)} {text query : List Char}

/-- The pieces that stand for a pair: key, equals sign and value. -/
inductive SpellsPair : String × String → List Char → Prop where
  | mk {key value : String} {spelledKey spelledValue : List Char}
      (hkey : Spells (utf8 key.toList) spelledKey)
      (hvalue : Spells (utf8 value.toList) spelledValue) :
      SpellsPair (key, value) (spelledKey ++ '=' :: spelledValue)

/-- The queries that stand for pairs: pieces with `&` between them, and any more of these in front
    of a piece or behind the last. -/
inductive SpellsQuery : List (String × String) → List Char → Prop where
  | none : SpellsQuery [] []
  | extra {pairs : List (String × String)} {query : List Char} (h : SpellsQuery pairs query) :
      SpellsQuery pairs ('&' :: query)
  | last {pair : String × String} {text : List Char} (hpair : SpellsPair pair text) :
      SpellsQuery [pair] text
  | next {pair : String × String} {pairs : List (String × String)} {text query : List Char}
      (hpair : SpellsPair pair text) (h : SpellsQuery pairs query) :
      SpellsQuery (pair :: pairs) (text ++ '&' :: query)

/-- Nothing that a query means something by is in a spelled text. -/
theorem notMem_of_spells {bs : List UInt8} {c : Char} (h : Spells bs text)
    (hc : c ∈ ['&', '=', '+']) : c ∉ text := by
  have table : ∀ c ∈ ['&', '=', '+'], ¬ Percent.IsSafe c := by
    simp [Percent.IsSafe]
  exact fun hmem => table c hc (h.isSafe c hmem)

/-- A part whose bytes are spelled out is decoded to the part. -/
theorem decodePart_of_spells {s : String} (h : Spells (utf8 s.toList) text) :
    decodePart text = s := by
  have hspaced : text.map (fun c => if c = '+' then ' ' else c) = text := by
    refine (List.map_congr_left (fun c hc => if_neg ?_)).trans (List.map_id' text)
    rintro rfl
    exact notMem_of_spells h (by simp) hc
  rw [decodePart]
  simp only [hspaced]
  rw [h.decode_eq, readUtf8_utf8, String.ofList_toList]

/-- A piece that spells a pair is decoded to the pair. -/
theorem decodePiece_of_spells (h : SpellsPair pair text) : decodePiece text = pair := by
  obtain ⟨hkey, hvalue⟩ := h
  rw [decodePiece, cutFirst_eq_some.mpr ⟨rfl, notMem_of_spells hkey (by simp)⟩]
  exact Prod.ext (decodePart_of_spells hkey) (decodePart_of_spells hvalue)

/-- No ampersand stands in a piece that spells a pair. -/
theorem notMem_of_spellsPair (h : SpellsPair pair text) : '&' ∉ text := by
  obtain ⟨hkey, hvalue⟩ := h
  rw [List.mem_append, List.mem_cons]
  rintro (hmem | heq | hmem)
  · exact notMem_of_spells hkey (by simp) hmem
  · cases heq
  · exact notMem_of_spells hvalue (by simp) hmem

/-- A piece that spells a pair is not empty: it has an equals sign. -/
theorem ne_nil_of_spellsPair (h : SpellsPair pair text) : text ≠ [] := by
  obtain ⟨hkey, hvalue⟩ := h
  exact List.append_ne_nil_of_right_ne_nil _ (List.cons_ne_nil _ _)

-- ── Pieces ─────────────────────────────────────────────────────────

/-- A separator in front cuts off an empty piece. -/
theorem splitOn_cons_self (c : Char) (cs : List Char) :
    (c :: cs).splitOn c = [] :: cs.splitOn c := by
  rw [List.splitOn_eq_splitOnP, List.splitOnP_cons_eq_if_modifyHead, if_pos (beq_self_eq_true c)]
  rfl

/-- An empty piece is skipped. -/
theorem pieces_cons_and (query : List Char) : pieces ('&' :: query) = pieces query := by
  rw [pieces, splitOn_cons_self]
  rfl

/-- In front of an ampersand stands a piece of its own. -/
theorem pieces_append_and (hand : '&' ∉ text) (hne : text ≠ []) (query : List Char) :
    pieces (text ++ '&' :: query) = text :: pieces query := by
  rw [pieces, splitOn_append_of_notMem hand, splitOn_cons_self, List.modifyHead_cons,
    List.append_nil, List.filter_cons_of_pos (by simpa using hne)]
  rfl

/-- Without an ampersand there is one piece. -/
theorem pieces_of_notMem (hand : '&' ∉ text) (hne : text ≠ []) : pieces text = [text] := by
  have hpieces := splitOn_append_of_notMem hand []
  rw [List.append_nil] at hpieces
  rw [pieces, hpieces]
  show [text ++ []].filter _ = [text]
  rw [List.append_nil, List.filter_cons_of_pos (by simpa using hne)]
  rfl

/-- **THE PAIRS OF A SPELLED QUERY** are those that it spells, in their order. -/
theorem pairs_of_spells (h : SpellsQuery pairs query) : Form.pairs query = pairs := by
  induction h with
  | none => rfl
  | extra _ ih => rwa [Form.pairs, pieces_cons_and]
  | last hpair =>
      rw [Form.pairs, pieces_of_notMem (notMem_of_spellsPair hpair) (ne_nil_of_spellsPair hpair),
        List.map_singleton, decodePiece_of_spells hpair]
  | next hpair _ ih =>
      rw [Form.pairs, pieces_append_and (notMem_of_spellsPair hpair) (ne_nil_of_spellsPair hpair),
        List.map_cons, decodePiece_of_spells hpair]
      exact congrArg _ ih

/-- All pairs can be spelled. -/
theorem exists_spellsQuery (pairs : List (String × String)) : ∃ query, SpellsQuery pairs query := by
  induction pairs with
  | nil => exact ⟨[], .none⟩
  | cons pair pairs ih =>
      obtain ⟨query, hquery⟩ := ih
      obtain ⟨key, hkey⟩ := Spells.exists_text (utf8 pair.1.toList)
      obtain ⟨value, hvalue⟩ := Spells.exists_text (utf8 pair.2.toList)
      exact ⟨_, .next (.mk hkey hvalue) hquery⟩

end Form

-- ── Contexts ───────────────────────────────────────────────────────

namespace RoutingContext

variable {context : RoutingContext} {pairs : List (String × String)}

/-- The entries of a context that may be written are good pairs, in whatever order. -/
theorem wellFormed_of_perm (hfilled : context.IsFilled) (hkey : context.get? "address" = none)
    (hpairs : pairs.Perm context.entries) : WellFormed pairs where
  filled := by
    intro p hp
    exact hfilled p.1 p.2 (SortedMap.mem_entries_iff.mp (hpairs.mem_iff.mp hp))
  unreserved := by
    rintro ⟨key, value⟩ hp rfl
    have hget := SortedMap.mem_entries_iff.mp (hpairs.mem_iff.mp hp)
    rw [hkey] at hget
    cases hget
  distinct := (hpairs.map Prod.fst).nodup_iff.mpr (SortedMap.nodup_keys context)

/-- **EVERY SPELLING OF A CONTEXT IS READ AS IT.**  A context without an empty text and without the
    reserved key can be written with its entries in any order, and whichever query spells them is
    read as just this context. -/
theorem parse_of_spells (hfilled : context.IsFilled) (hkey : context.get? "address" = none)
    (hpairs : pairs.Perm context.entries) :
    (∃ query : String, Form.SpellsQuery pairs query.toList)
      ∧ ∀ query : String, Form.SpellsQuery pairs query.toList → parse query = .ok context := by
  constructor
  · obtain ⟨query, hquery⟩ := Form.exists_spellsQuery pairs
    refine ⟨String.ofList query, ?_⟩
    rwa [String.toList_ofList]
  · intro query hquery
    have hread : Form.pairs query.toList = pairs := Form.pairs_of_spells hquery
    have hgood : WellFormed (Form.pairs query.toList) := by
      rw [hread]
      exact wellFormed_of_perm hfilled hkey hpairs
    rw [parse_of_wellFormed hgood, hread, SortedMap.ofList_of_perm hpairs]

/-- A key with a separator in it and a value outside ASCII, behind a value that is a plus sign: out
    of order, with digits in both cases, a letter escaped, and `&` in front, between and behind. -/
theorem parse_of_spells_untidy :
    parse "&%62=%2b&&a%26=%C3%a9&" = .ok (SortedMap.ofList [("a&", "é"), ("b", "+")]) := by
  have hfilled : IsFilled (SortedMap.ofList [("a&", "é"), ("b", "+")]) := by
    intro key value hget
    have hmem := SortedMap.mem_of_get?_ofList hget
    simp only [List.mem_cons, List.not_mem_nil, or_false, Prod.mk.injEq] at hmem
    rcases hmem with ⟨rfl, rfl⟩ | ⟨rfl, rfl⟩ <;> decide
  have hpairs : [("b", "+"), ("a&", "é")].Perm
      (SortedMap.ofList [("a&", "é"), ("b", "+")]).entries := .swap _ _ _
  have hb : Percent.Spells [0x62] (['%', '6', '2'] ++ []) :=
    .cons (.escaped .upper .upper) .nil
  have hplus : Percent.Spells [0x2B] (['%', '2', 'b'] ++ []) :=
    .cons (.escaped .upper .lower) .nil
  have ha : Percent.Spells [0x61, 0x26] (['a'] ++ (['%', '2', '6'] ++ [])) :=
    .cons (.plain (c := 'a') rfl) (.cons (.escaped .upper .upper) .nil)
  have he : Percent.Spells [0xC3, 0xA9] (['%', 'C', '3'] ++ (['%', 'a', '9'] ++ [])) :=
    .cons (.escaped .upper .upper) (.cons (.escaped .lower .upper) .nil)
  have hfirst : Form.SpellsPair ("b", "+") (['%', '6', '2'] ++ '=' :: ['%', '2', 'b']) :=
    .mk hb hplus
  have hsecond : Form.SpellsPair ("a&", "é")
      (['a', '%', '2', '6'] ++ '=' :: ['%', 'C', '3', '%', 'a', '9']) :=
    .mk ha he
  have hquery : Form.SpellsQuery [("b", "+"), ("a&", "é")] "&%62=%2b&&a%26=%C3%a9&".toList :=
    .extra (.next hfirst (.extra (.next hsecond .none)))
  exact (parse_of_spells hfilled rfl hpairs).2 _ hquery

end RoutingContext
end GraphLink
