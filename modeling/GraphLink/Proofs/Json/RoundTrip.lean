import GraphLink.Proofs.Json.Tokens
import GraphLink.Proofs.SortedMap

/-! # A bag in JSON is read back

    JSON does not say which shape of value a text stands for: a value has the first shape that its
    content fits.  For the content of a value that is the shape of the value itself
    (`Value.ofContent_content`), so a value is read back if its content is.

    The reader is one recursion over three functions, and each call uses up fuel and each bracket
    uses up depth.  A value `IsReadBack` at a depth if there the reader gives it back from its text
    whatever delimited text follows, on twice as much fuel as the text is long.  Items and fields
    that are read back make lists and maps that are read back one level further up
    (`readItems_write`, `readFields_write`), and so all exact values are read back
    (`isReadBack_of_isExact`). -/

namespace GraphLink

/-- Values without floats, nested at most so deep; the fields of a map are in order, as they always
    are. -/
inductive Value.IsExact : (depth : Nat) → Value → Prop where
  | null {depth : Nat} : IsExact depth .null
  | bool {depth : Nat} (b : Bool) : IsExact depth (.bool b)
  | int {depth : Nat} (i : Int64) : IsExact depth (.int i)
  | string {depth : Nat} (s : String) : IsExact depth (.string s)
  | list {depth : Nat} {items : List Value} (h : ∀ v ∈ items, IsExact depth v) :
      IsExact (depth + 1) (.list items)
  | map {depth : Nat} {fields : List (String × Value)} (hascending : Ascending fields)
      (h : ∀ e ∈ fields, IsExact depth e.2) : IsExact (depth + 1) (.map fields)

-- ── Shapes ─────────────────────────────────────────────────────────

namespace Value

/-- What a format says of a value. -/
def content : Value → Content
  | .null => .unit
  | .bool b => .bool b
  | .int i => .integer i.toInt
  | .float x => .float x
  | .string s => .string s
  | .list items => .items items
  | .map fields => .fields fields

/-- Fields that are in order already stay as they are. -/
theorem ofPairs_of_ascending {fields : List (String × Value)} (h : Ascending fields) :
    ofPairs fields = .map fields :=
  congrArg (fun m : SortedMap Value => Value.map m.entries) (SortedMap.ofList_entries ⟨fields, h⟩)

/-- An integer fits the integers, which come before the floats. -/
theorem fitInt_content (i : Int64) : fitInt (content (.int i)) = some (.int i) := by
  rw [content, fitInt, if_pos ⟨Int64.minValue_le_toInt i, Int64.toInt_le i⟩, Int64.ofInt_toInt]

/-- **NO SHAPE TAKES WHAT BELONGS TO ANOTHER**: of the shapes that the content of a value fits, its
    own comes first. -/
theorem ofContent_content {n : Nat} {v : Value} (h : v.IsExact n) :
    ofContent v.content = some v := by
  cases h with
  | null => rfl
  | bool b => rfl
  | int i =>
      have hnull : fitNull (content (.int i)) = none := rfl
      have hbool : fitBool (content (.int i)) = none := rfl
      rw [ofContent, shapes, List.findSome?_cons, hnull, List.findSome?_cons, hbool,
        List.findSome?_cons, fitInt_content]
  | string s => rfl
  | list h => rfl
  | map hascending h =>
      show some (ofPairs _) = _
      rw [ofPairs_of_ascending hascending]

end Value

namespace Json

open Value (IsExact)

variable {c : Char} {cs ds rest : List Char} {n depth fuel : Nat} {k : String} {v : Value}
  {items : List Value} {fields : List (String × Value)}

-- ── The beginning of a value ───────────────────────────────────────

/-- The content of an exact value fits the value, and the rest is passed on. -/
theorem fit_content (h : v.IsExact n) (rest : List Char) : fit v.content rest = some (v, rest) := by
  rw [fit, Value.ofContent_content h]
  rfl

/-- No space is skipped in front of something that is not space. -/
theorem skipSpace_cons (h : isSpace c = false) : skipSpace (c :: cs) = c :: cs :=
  List.dropWhile_cons_of_neg (by simp [h])

/-- What begins a number is not space. -/
theorem isSpace_of_digit (h : c = '-' ∨ c.isDigit = true) : isSpace c = false := by
  cases hspace : isSpace c with
  | false => rfl
  | true =>
      simp only [isSpace, Bool.or_eq_true, beq_iff_eq] at hspace
      rcases hspace with ((rfl | rfl) | rfl) | rfl <;> exact absurd h (by decide)

/-- A sign or a digit begins a number. -/
theorem readValue_of_digit (h : c = '-' ∨ c.isDigit = true) :
    readValue (fuel + 1) depth (c :: cs)
      = (readNumber (c :: cs)).bind (fun p => fit p.1 p.2) := by
  rw [readValue, skipSpace_cons (isSpace_of_digit h)]
  split
  case h_7 => rfl
  all_goals
    rename_i heq
    cases heq
    exact absurd h (by decide)

/-- An opening bracket with something else than its closing one behind it begins items. -/
theorem readValue_list (hspace : isSpace c = false) (hclosing : c ≠ ']') :
    readValue (fuel + 1) (depth + 1) ('[' :: c :: cs)
      = (readItems fuel depth (c :: cs)).bind (fun p => fit (.items p.1) p.2) := by
  rw [readValue, skipSpace_cons (c := '[') rfl]
  simp only [skipSpace_cons hspace]
  split
  · rename_i heq
    exact absurd (List.cons.inj heq).1 hclosing
  · rfl

/-- An opening brace with a string behind it begins fields. -/
theorem readValue_map (k : String) (cs : List Char) :
    readValue (fuel + 1) (depth + 1) ('\x7b' :: (writeString k ++ cs))
      = (readFields fuel depth (writeString k ++ cs)).bind (fun p => fit (.fields p.1) p.2) :=
  rfl

/-- A written integer begins with a sign or a digit. -/
theorem intText_head (i : Int64) :
    ∃ c cs, (Value.intText i).toList = c :: cs ∧ (c = '-' ∨ c.isDigit = true) := by
  rw [Value.intText]
  by_cases hneg : i.toInt < 0
  · rw [if_pos hneg, String.toList_ofList]
    exact ⟨_, _, rfl, .inl rfl⟩
  · rw [if_neg hneg, String.toList_ofList]
    have hdigits : ∀ c ∈ Text.decimal i.toInt.natAbs, c.isDigit = true :=
      Text.forall_mem_decimal (by decide) _
    cases hdecimal : Text.decimal i.toInt.natAbs with
    | nil => exact absurd hdecimal (Text.decimal_ne_nil _)
    | cons c cs => exact ⟨c, cs, rfl, .inr (hdigits c (hdecimal ▸ List.mem_cons_self))⟩

/-- The text of a value begins with no blank and with no closing bracket. -/
theorem write_head (h : v.IsExact n) :
    ∃ c cs, write v = c :: cs ∧ isSpace c = false ∧ c ≠ ']' := by
  cases h with
  | null => exact ⟨_, _, rfl, rfl, by decide⟩
  | bool b => cases b <;> exact ⟨_, _, rfl, rfl, by decide⟩
  | int i =>
      obtain ⟨c, cs, htext, hc⟩ := intText_head i
      refine ⟨c, cs, htext, isSpace_of_digit hc, ?_⟩
      rintro rfl
      exact absurd hc (by decide)
  | string s => exact ⟨_, _, rfl, rfl, by decide⟩
  | list => exact ⟨_, _, rfl, rfl, by decide⟩
  | map => exact ⟨_, _, rfl, rfl, by decide⟩

theorem writeFields_cons (e : String × Value) (fields : List (String × Value)) :
    writeFields (e :: fields)
      = writeString e.1 ++ ':' :: (write e.2 ++ writeMoreFields fields) := by
  rw [writeFields, List.append_assoc, List.cons_append]

theorem writeMoreFields_cons (e : String × Value) (fields : List (String × Value)) :
    writeMoreFields (e :: fields)
      = ',' :: (writeString e.1 ++ ':' :: (write e.2 ++ writeMoreFields fields)) := by
  rw [writeMoreFields, List.append_assoc, List.cons_append, List.cons_append]

-- ── Items and fields ───────────────────────────────────────────────

/-- Whether the reader gives a value back from its text. -/
def IsReadBack (depth : Nat) (v : Value) : Prop :=
  ∀ fuel rest, 2 * (write v).length ≤ fuel → IsDelimited rest →
    readValue fuel depth (write v ++ rest) = some (v, rest)

/-- A comma or a closing bracket can follow a value. -/
theorem isDelimited_cons (h : c = ',' ∨ c = ']' ∨ c = '\x7d') : IsDelimited (c :: cs) := by
  rintro _ ⟨⟩
  exact h

/-- A value with a closing bracket behind it is the last item. -/
theorem readItems_last (h : readValue fuel depth cs = some (v, ']' :: rest)) :
    readItems (fuel + 1) depth cs = some ([v], rest) := by
  rw [readItems, h]
  rfl

/-- A value with a comma behind it is followed by more items. -/
theorem readItems_more (h : readValue fuel depth cs = some (v, ',' :: rest)) :
    readItems (fuel + 1) depth cs
      = (readItems fuel depth rest).map (fun p => (v :: p.1, p.2)) := by
  rw [readItems, h]
  rfl

/-- A field with a closing brace behind it is the last one. -/
theorem readFields_last (hkey : readString cs = some (k, ':' :: ds))
    (h : readValue fuel depth ds = some (v, '\x7d' :: rest)) :
    readFields (fuel + 1) depth ('"' :: cs) = some ([(k, v)], rest) := by
  rw [readFields, skipSpace_cons rfl]
  simp only [hkey, skipSpace_cons (c := ':') rfl, h, skipSpace_cons (c := '\x7d') rfl]

/-- A field with a comma behind it is followed by more fields. -/
theorem readFields_more (hkey : readString cs = some (k, ':' :: ds))
    (h : readValue fuel depth ds = some (v, ',' :: rest)) :
    readFields (fuel + 1) depth ('"' :: cs)
      = (readFields fuel depth rest).map (fun p => ((k, v) :: p.1, p.2)) := by
  rw [readFields, skipSpace_cons rfl]
  simp only [hkey, skipSpace_cons (c := ':') rfl, h, skipSpace_cons (c := ',') rfl]

/-- Written items are read back if each of them is, with fuel for the whole text of them. -/
theorem readItems_write (hv : IsReadBack depth v) (hitems : ∀ w ∈ items, IsReadBack depth w)
    (hfuel : 2 * (write v ++ writeMoreItems items).length ≤ fuel) (rest : List Char) :
    readItems fuel depth (write v ++ (writeMoreItems items ++ rest)) = some (v :: items, rest) := by
  induction items generalizing v fuel with
  | nil =>
      rw [writeMoreItems, List.length_append, List.length_singleton] at hfuel
      obtain ⟨fuel, rfl⟩ := Nat.exists_eq_add_of_le' (show 1 ≤ fuel by omega)
      have hvalue := hv fuel (']' :: rest) (by omega) (isDelimited_cons (.inr (.inl rfl)))
      exact readItems_last hvalue
  | cons w items ih =>
      obtain ⟨hw, hitems⟩ := List.forall_mem_cons.mp hitems
      rw [writeMoreItems, List.length_append, List.cons_append, List.length_cons] at hfuel
      obtain ⟨fuel, rfl⟩ := Nat.exists_eq_add_of_le' (show 1 ≤ fuel by omega)
      have hvalue := hv fuel (',' :: (write w ++ (writeMoreItems items ++ rest))) (by omega)
        (isDelimited_cons (.inl rfl))
      have hrest := ih hw hitems (show 2 * (write w ++ writeMoreItems items).length ≤ fuel by omega)
      rw [writeMoreItems, List.cons_append, List.cons_append, List.append_assoc,
        readItems_more hvalue, hrest]
      rfl

/-- Written fields are read back if each of their values is, with fuel for the whole text of
    them. -/
theorem readFields_write (hv : IsReadBack depth v) (hfields : ∀ e ∈ fields, IsReadBack depth e.2)
    (hfuel : 2 * (writeString k ++ ':' :: (write v ++ writeMoreFields fields)).length ≤ fuel)
    (rest : List Char) :
    readFields fuel depth (writeString k ++ ':' :: (write v ++ (writeMoreFields fields ++ rest)))
      = some ((k, v) :: fields, rest) := by
  induction fields generalizing k v fuel with
  | nil =>
      rw [writeMoreFields, List.length_append, List.length_cons, List.length_append,
        List.length_singleton] at hfuel
      obtain ⟨fuel, rfl⟩ := Nat.exists_eq_add_of_le' (show 1 ≤ fuel by omega)
      have hvalue := hv fuel ('\x7d' :: rest) (by omega) (isDelimited_cons (.inr (.inr rfl)))
      obtain ⟨cs, htext, hkey⟩ := readString_writeString k (':' :: (write v ++ '\x7d' :: rest))
      rw [writeMoreFields, List.singleton_append, htext]
      exact readFields_last hkey hvalue
  | cons e fields ih =>
      obtain ⟨he, hfields⟩ := List.forall_mem_cons.mp hfields
      rw [writeMoreFields_cons, List.length_append, List.length_cons, List.length_append,
        List.length_cons] at hfuel
      obtain ⟨fuel, rfl⟩ := Nat.exists_eq_add_of_le' (show 1 ≤ fuel by omega)
      have hrest := ih (k := e.1) he hfields (by omega : _ ≤ fuel)
      rw [writeMoreFields_cons, List.cons_append, List.append_assoc, List.cons_append,
        List.append_assoc]
      -- The next field is read as it stands; only the comma in front of it matters to this one.
      generalize writeString e.1 ++ ':' :: (write e.2 ++ (writeMoreFields fields ++ rest)) = more
        at hrest ⊢
      have hvalue := hv fuel (',' :: more) (by omega) (isDelimited_cons (.inl rfl))
      obtain ⟨cs, htext, hkey⟩ := readString_writeString k (':' :: (write v ++ ',' :: more))
      rw [htext, readFields_more hkey hvalue, hrest]
      rfl

-- ── Values ─────────────────────────────────────────────────────────

/-- There is fuel for one call at least. -/
theorem isReadBack_of_succ (hexact : v.IsExact n)
    (h : ∀ fuel rest, 2 * (write v).length ≤ fuel + 1 → IsDelimited rest →
      readValue (fuel + 1) depth (write v ++ rest) = some (v, rest)) : IsReadBack depth v := by
  intro fuel rest hfuel hrest
  obtain ⟨c, cs, hhead, -, -⟩ := write_head hexact
  have hlength : (write v).length = cs.length + 1 := by
    rw [hhead, List.length_cons]
  obtain ⟨fuel, rfl⟩ := Nat.exists_eq_add_of_le' (show 1 ≤ fuel by omega)
  exact h fuel rest hfuel hrest

/-- **EVERY EXACT VALUE IS READ BACK**, up to the depth that the reader allows. -/
theorem isReadBack_of_isExact (h : v.IsExact n) (hdepth : n ≤ depth) : IsReadBack depth v := by
  induction h generalizing depth with
  | null => exact isReadBack_of_succ (n := 0) .null (fun _ _ _ _ => rfl)
  | bool b =>
      refine isReadBack_of_succ (n := 0) (.bool b) (fun _ _ _ _ => ?_)
      cases b <;> rfl
  -- A number is not closed: it ends where what follows it cannot be part of it.
  | int i =>
      refine isReadBack_of_succ (n := 0) (.int i) (fun fuel rest _ hrest => ?_)
      obtain ⟨c, cs, htext, hc⟩ := intText_head i
      rw [write, htext, List.cons_append, readValue_of_digit hc, ← List.cons_append, ← htext,
        readNumber_intText i hrest]
      exact fit_content (n := 0) (.int i) rest
  | string s =>
      refine isReadBack_of_succ (n := 0) (.string s) (fun fuel rest _ _ => ?_)
      obtain ⟨cs, htext, hread⟩ := readString_writeString s rest
      rw [write, htext]
      show (readString cs).bind _ = _
      rw [hread]
      rfl
  | @list n items h ih =>
      -- A list uses up one level of the depth, and its items have the rest.
      obtain ⟨depth, rfl⟩ := Nat.exists_eq_add_of_le' (show 1 ≤ depth by omega)
      refine isReadBack_of_succ (.list h) (fun fuel rest hfuel _ => ?_)
      have hitems : ∀ v ∈ items, IsReadBack depth v := fun v hv => ih v hv (by omega)
      cases items with
      | nil => rfl
      | cons v items =>
          obtain ⟨hv, hrest⟩ := List.forall_mem_cons.mp hitems
          obtain ⟨c, cs, hhead, hspace, hclosing⟩ := write_head (h v List.mem_cons_self)
          rw [write, writeItems, List.length_cons] at hfuel
          rw [write, writeItems, List.cons_append, List.append_assoc, hhead, List.cons_append,
            readValue_list hspace hclosing, ← List.cons_append, ← hhead,
            readItems_write hv hrest (by omega)]
          exact fit_content (.list h) rest
  | @map n fields hascending h ih =>
      obtain ⟨depth, rfl⟩ := Nat.exists_eq_add_of_le' (show 1 ≤ depth by omega)
      refine isReadBack_of_succ (.map hascending h) (fun fuel rest hfuel _ => ?_)
      -- The keys are in order, so the fields that are read make the same map.
      have hfields : ∀ e ∈ fields, IsReadBack depth e.2 := fun e he => ih e he (by omega)
      cases fields with
      | nil => rfl
      | cons e fields =>
          obtain ⟨he, hrest⟩ := List.forall_mem_cons.mp hfields
          rw [write, writeFields_cons, List.length_cons] at hfuel
          rw [write, writeFields_cons, List.cons_append, List.append_assoc, List.cons_append,
            List.append_assoc, readValue_map, readFields_write he hrest (by omega)]
          exact fit_content (.map hascending h) rest

end Json

-- ── Bags ───────────────────────────────────────────────────────────

namespace Options

/-- **A BAG IN JSON IS READ BACK**, if its values are exact and leave a level of nesting for the
    bag, as a hundred levels do: the same keys with the same values, in the same shapes. -/
theorem json_roundTrip {n : Nat} (hn : n < Json.maxDepth) {o : Options}
    (h : ∀ e ∈ o.entries, e.2.IsExact n) : ofJson? o.toJson = some o := by
  have hread := Json.isReadBack_of_isExact (.map o.ascending h) hn
    (2 * (Json.write (.map o.entries)).length + 1) [] (by omega) (by simp [Json.IsDelimited])
  rw [List.append_nil] at hread
  rw [ofJson?, Json.read, toJson, String.toList_ofList]
  simp only [hread]
  exact congrArg some (SortedMap.ofList_entries o)

/-- A bag with the limits of the integers, and with what is escaped in keys and in values. -/
def jsonSample : Options where
  entries := [("a\"\\\n\x01", .list [.null, .map [("", .int Int64.minValue), ("k", .list [])]]),
    ("b", .int Int64.maxValue), ("é😀", .string "\x7f/é😀\t")]
  ascending := by decide

theorem json_roundTrip_sample : 100 < Json.maxDepth
    ∧ (∀ e ∈ jsonSample.entries, e.2.IsExact 100)
    ∧ ofJson? jsonSample.toJson = some jsonSample := by
  have hlist : Value.IsExact 98 (.list []) := .list (List.forall_mem_nil _)
  have hmap : Value.IsExact 99 (.map [("", .int Int64.minValue), ("k", .list [])]) :=
    .map (by decide) (List.forall_mem_cons.mpr ⟨.int _, List.forall_mem_singleton.mpr hlist⟩)
  have hitems := List.forall_mem_cons.mpr ⟨.null, List.forall_mem_singleton.mpr hmap⟩
  have hrest : ∀ e ∈ jsonSample.entries.tail, e.2.IsExact 100 :=
    List.forall_mem_cons.mpr ⟨.int _, List.forall_mem_singleton.mpr (.string _)⟩
  have hexact : ∀ e ∈ jsonSample.entries, e.2.IsExact 100 :=
    List.forall_mem_cons.mpr ⟨.list hitems, hrest⟩
  exact ⟨by decide, hexact, json_roundTrip (by decide) hexact⟩

end Options
end GraphLink
