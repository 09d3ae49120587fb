/-! # Sorted maps — finite maps from texts, in the order of their keys

    A `SortedMap α` is a list of entries in strictly ascending key order, so no key occurs twice
    and two maps that answer every look-up alike are equal (`ext_get?`).  Texts are compared code
    point by code point, which is also the order of their UTF-8 bytes.

    The operations are pinned down by what they do to look-ups: `get?_insert`, `get?_erase` and
    `get?_empty`. -/

namespace GraphLink

variable {α : Type}

-- ── Entries ────────────────────────────────────────────────────────

/-- Entries in strictly ascending order of their keys. -/
def Ascending (es : List (String × α)) : Prop :=
  es.Pairwise (fun a b => a.1 < b.1)

instance (es : List (String × α)) : Decidable (Ascending es) :=
  inferInstanceAs (Decidable (es.Pairwise _))

/-- Puts an entry in its place; an entry with the same key gives way to it. -/
def insertEntry (k : String) (v : α) : List (String × α) → List (String × α)
  | [] => [(k, v)]
  | (k', v') :: rest =>
      if k < k' then (k, v) :: (k', v') :: rest
      else if k = k' then (k, v) :: rest
      else (k', v') :: insertEntry k v rest

/-- The first entry decides a look-up, or it goes on behind it. -/
theorem lookup_entry_cons (q k : String) (v : α) (rest : List (String × α)) :
    ((k, v) :: rest).lookup q = if q = k then some v else rest.lookup q := by
  rw [List.lookup_cons]
  by_cases h : q = k
  · rw [if_pos h, beq_iff_eq.mpr h]
  · rw [if_neg h, beq_eq_false_iff_ne.mpr h]

/-- Every entry comes from the new one or from the old ones. -/
theorem mem_insertEntry {k : String} {v : α} {e : String × α} :
    ∀ {es : List (String × α)}, e ∈ insertEntry k v es → e = (k, v) ∨ e ∈ es
  | [], h => by simpa [insertEntry] using h
  | (k', v') :: rest, h => by
      simp only [insertEntry] at h
      split at h
      · simpa using h
      · split at h
        · rcases List.mem_cons.mp h with h | h
          · exact .inl h
          · exact .inr (List.mem_cons_of_mem _ h)
        · rcases List.mem_cons.mp h with h | h
          · exact .inr (h ▸ List.mem_cons_self)
          · exact (mem_insertEntry h).imp_right (List.mem_cons_of_mem _)

/-- Inserting an entry keeps the order. -/
theorem Ascending.insertEntry {k : String} {v : α} :
    ∀ {es : List (String × α)}, Ascending es → Ascending (insertEntry k v es)
  | [], _ => by simp [GraphLink.insertEntry, Ascending]
  | (k', v') :: rest, h => by
      obtain ⟨hhead, htail⟩ := List.pairwise_cons.mp h
      simp only [GraphLink.insertEntry]
      split
      case isTrue hlt =>
        refine List.pairwise_cons.mpr ⟨fun e he => ?_, h⟩
        rcases List.mem_cons.mp he with rfl | he
        · exact hlt
        · exact String.lt_trans hlt (hhead e he)
      case isFalse hlt =>
        split
        case isTrue heq => exact List.pairwise_cons.mpr ⟨heq ▸ hhead, htail⟩
        case isFalse hne =>
          refine List.pairwise_cons.mpr ⟨fun e he => ?_, Ascending.insertEntry htail⟩
          rcases mem_insertEntry he with rfl | he
          · rcases Std.le_total (a := k) (b := k') with hle | hle
            · exact absurd (Std.lt_of_le_of_ne hle hne) hlt
            · exact Std.lt_of_le_of_ne hle (Ne.symm hne)
          · exact hhead e he

/-- Behind an insertion the new value is found under its key, and nothing else is changed. -/
theorem lookup_insertEntry (k q : String) (v : α) :
    ∀ (es : List (String × α)),
      (insertEntry k v es).lookup q = if q = k then some v else es.lookup q
  | [] => lookup_entry_cons q k v []
  | (k', v') :: rest => by
      have ih := lookup_insertEntry k q v rest
      simp only [insertEntry]
      split
      · exact lookup_entry_cons q k v _
      · split
        case isTrue heq =>
          subst heq
          by_cases h : q = k <;> simp [lookup_entry_cons, h]
        case isFalse hne =>
          simp only [lookup_entry_cons, ih]
          by_cases h' : q = k'
          · subst h'; simp [Ne.symm hne]
          · simp [h']

/-- Where entries are kept by their keys, the key that is looked up decides. -/
theorem lookup_filter_key (keep : String → Prop) [DecidablePred keep] (q : String) :
    ∀ (es : List (String × α)),
      (es.filter (fun e => keep e.1)).lookup q = if keep q then es.lookup q else none
  | [] => (ite_self none).symm
  | (k, v) :: rest => by
      have ih := lookup_filter_key keep q rest
      by_cases hk : keep k
      · rw [List.filter_cons_of_pos (by simpa using hk), lookup_entry_cons, lookup_entry_cons, ih]
        by_cases heq : q = k
        · rw [if_pos heq, if_pos heq, if_pos (heq ▸ hk)]
        · rw [if_neg heq, if_neg heq]
      · rw [List.filter_cons_of_neg (by simpa using hk), ih, lookup_entry_cons]
        by_cases hq : keep q
        · rw [if_pos hq, if_pos hq, if_neg]
          rintro rfl
          exact hk hq
        · rw [if_neg hq, if_neg hq]

/-- A key below all others is not found. -/
theorem lookup_eq_none_of_forall_lt {q : String} {es : List (String × α)}
    (h : ∀ e ∈ es, q < e.1) : es.lookup q = none := by
  refine List.lookup_eq_none_iff.mpr (fun e he => ?_)
  have hne : q ≠ e.1 := fun heq => String.lt_irrefl q (heq ▸ h e he)
  simpa using hne

/-- **LOOK-UPS DETERMINE THE ENTRIES** of ascending lists. -/
theorem Ascending.eq_of_lookup :
    ∀ {xs ys : List (String × α)}, Ascending xs → Ascending ys →
      (∀ q, xs.lookup q = ys.lookup q) → xs = ys
  | [], [], _, _, _ => rfl
  | [], (k, v) :: ys, _, _, h => by simpa [lookup_entry_cons] using h k
  | (k, v) :: xs, [], _, _, h => by simpa [lookup_entry_cons] using h k
  | (k, v) :: xs, (k', v') :: ys, hx, hy, h => by
      obtain ⟨hxhead, hxtail⟩ := List.pairwise_cons.mp hx
      obtain ⟨hyhead, hytail⟩ := List.pairwise_cons.mp hy
      -- The lower one of two first keys would be found in one list only.
      have not_below : ∀ {a b : String} {u w : α} {zs us : List (String × α)},
          (∀ e ∈ zs, b < e.1) →
          ((a, u) :: us).lookup a = ((b, w) :: zs).lookup a → ¬ a < b := by
        intro a b u w zs us hzs hl hab
        have hz : ((b, w) :: zs).lookup a = none :=
          lookup_eq_none_of_forall_lt (fun e he => by
            rcases List.mem_cons.mp he with rfl | he
            · exact hab
            · exact String.lt_trans hab (hzs e he))
        rw [hz] at hl
        simp at hl
      have hk : k = k' := by
        refine Classical.byContradiction fun hne => ?_
        rcases Std.le_total (a := k) (b := k') with hle | hle
        · exact not_below hyhead (h k) (Std.lt_of_le_of_ne hle hne)
        · exact not_below hxhead (h k').symm (Std.lt_of_le_of_ne hle (Ne.symm hne))
      subst hk
      have hv : v = v' := by simpa [lookup_entry_cons] using h k
      subst hv
      have htail : xs = ys := Ascending.eq_of_lookup hxtail hytail (fun q => by
        by_cases hq : q = k
        · subst hq
          rw [lookup_eq_none_of_forall_lt hxhead, lookup_eq_none_of_forall_lt hyhead]
        · simpa [lookup_entry_cons, hq] using h q)
      rw [htail]

-- ── Maps ───────────────────────────────────────────────────────────

/-- A finite map from texts: its entries, in strictly ascending order of their keys. -/
structure SortedMap (α : Type) where
  /-- Keys with their values. -/
  entries : List (String × α)
  /-- Each key is below the next. -/
  ascending : Ascending entries
  deriving DecidableEq

namespace SortedMap

/-- The map without entries. -/
def empty : SortedMap α := ⟨[], List.Pairwise.nil⟩

instance : Inhabited (SortedMap α) := ⟨empty⟩
instance : EmptyCollection (SortedMap α) := ⟨empty⟩

/-- The value of a key. -/
def get? (m : SortedMap α) (k : String) : Option α :=
  m.entries.lookup k

/-- Whether a key has a value. -/
def contains (m : SortedMap α) (k : String) : Bool :=
  (m.get? k).isSome

/-- The keys, in strictly ascending order. -/
def keys (m : SortedMap α) : List String :=
  m.entries.map Prod.fst

/-- The number of keys. -/
def size (m : SortedMap α) : Nat :=
  m.entries.length

/-- Whether there is no key. -/
def isEmpty (m : SortedMap α) : Bool :=
  m.entries.isEmpty

/-- The map in which `k` has the value `v`. -/
def insert (m : SortedMap α) (k : String) (v : α) : SortedMap α :=
  ⟨insertEntry k v m.entries, m.ascending.insertEntry⟩

/-- The map without the key `k`. -/
def erase (m : SortedMap α) (k : String) : SortedMap α :=
  ⟨m.entries.filter (fun e => e.1 ≠ k), m.ascending.filter _⟩

/-- The map after inserting pairs one by one, so that the last pair of a key wins. -/
def insertMany (m : SortedMap α) (pairs : List (String × α)) : SortedMap α :=
  pairs.foldl (fun m e => m.insert e.1 e.2) m

/-- The map of a list of pairs, in which the last pair of a key wins. -/
def ofList (pairs : List (String × α)) : SortedMap α :=
  empty.insertMany pairs

-- ── Look-ups ───────────────────────────────────────────────────────

@[simp] theorem get?_empty (q : String) : (empty : SortedMap α).get? q = none := rfl

/-- An insertion changes what the map has for its key, and nothing else. -/
theorem get?_insert (m : SortedMap α) (k q : String) (v : α) :
    (m.insert k v).get? q = if q = k then some v else m.get? q :=
  lookup_insertEntry k q v m.entries

@[simp] theorem get?_insert_self (m : SortedMap α) (k : String) (v : α) :
    (m.insert k v).get? k = some v := by
  simp [get?_insert]

theorem get?_insert_of_ne (m : SortedMap α) {k q : String} (h : q ≠ k) (v : α) :
    (m.insert k v).get? q = m.get? q := by
  simp [get?_insert, h]

/-- Erasing takes away what the map has for its key, and nothing else. -/
theorem get?_erase (m : SortedMap α) (k q : String) :
    (m.erase k).get? q = if q = k then none else m.get? q :=
  (lookup_filter_key (· ≠ k) q m.entries).trans (ite_not ..)

/-- **EXTENSIONALITY**: maps that answer every look-up alike are equal. -/
theorem ext_get? {m n : SortedMap α} (h : ∀ q, m.get? q = n.get? q) : m = n := by
  cases m with
  | mk es hes =>
    cases n with
    | mk fs hfs =>
      have : es = fs := hes.eq_of_lookup hfs h
      subst this
      rfl

end SortedMap
end GraphLink
