import GraphLink.Record
import GraphLink.Proofs.SortedMap

/-! # Two ways to read a record

    A value is found by its key (`get?`) or in the map of the record (`toMap`).  The first looks for
    the first position of the key; the second knows only the keys that have a value beside them
    (`pairedKeys`), and there takes the last position.

    Both find something for the same keys.  They find the same if, for every key, its first and its
    last position hold the same value, and only then (`get?_against_toMap`). -/

namespace GraphLink.Record

variable {r : Record} {keys : List String} {key : String} {i j : Nat} {v : Value}

-- ── Positions ──────────────────────────────────────────────────────

/-- Whether a key stands at a position and nowhere before it. -/
def IsFirst (keys : List String) (key : String) (i : Nat) : Prop :=
  keys[i]? = some key ∧ ∀ j < i, keys[j]? ≠ some key

/-- Whether a key stands at a position and nowhere behind it. -/
def IsLast (keys : List String) (key : String) (i : Nat) : Prop :=
  keys[i]? = some key ∧ ∀ j, i < j → keys[j]? ≠ some key

/-- A key that occurs has a first position. -/
theorem exists_isFirst (h : key ∈ keys) : ∃ i, IsFirst keys key i := by
  induction keys with
  | nil => cases h
  | cons k keys ih =>
      by_cases hk : key = k
      · exact ⟨0, congrArg some hk.symm, fun j hj => absurd hj (Nat.not_lt_zero j)⟩
      · obtain ⟨i, hi, hbefore⟩ := ih ((List.mem_cons.mp h).resolve_left hk)
        refine ⟨i + 1, hi, ?_⟩
        intro j hj
        cases j with
        | zero => exact fun heq => hk (Option.some.inj heq).symm
        | succ j => exact hbefore j (Nat.lt_of_succ_lt_succ hj)

/-- A key that occurs has a last position. -/
theorem exists_isLast (h : key ∈ keys) : ∃ i, IsLast keys key i := by
  induction keys with
  | nil => cases h
  | cons k keys ih =>
      by_cases hrest : key ∈ keys
      · obtain ⟨i, hi, hbehind⟩ := ih hrest
        refine ⟨i + 1, hi, ?_⟩
        intro j hj
        cases j with
        | zero => exact absurd hj (Nat.not_lt_zero _)
        | succ j => exact hbehind j (Nat.lt_of_succ_lt_succ hj)
      · have hk : key = k := (List.mem_cons.mp h).resolve_right hrest
        refine ⟨0, congrArg some hk.symm, ?_⟩
        intro j hj
        cases j with
        | zero => exact absurd hj (Nat.lt_irrefl 0)
        | succ j => exact fun heq => hrest (List.mem_of_getElem? heq)

/-- Where keys do not repeat, the first position is the last. -/
theorem IsFirst.eq_of_isLast (hdistinct : keys.Nodup) (hi : IsFirst keys key i)
    (hj : IsLast keys key j) : i = j := by
  obtain ⟨hlt, -⟩ := List.getElem?_eq_some_iff.mp hi.1
  exact (List.getElem?_inj hlt hdistinct).mp (hi.1.trans hj.1.symm)

-- ── Keys with a value ──────────────────────────────────────────────

/-- The keys that have a value beside them. -/
def pairedKeys (r : Record) : List String :=
  r.keys.take (min r.keys.length r.values.length)

/-- The keys of the pairs are those that have a value beside them. -/
theorem map_fst_pairs (r : Record) : r.pairs.map Prod.fst = r.pairedKeys := by
  rw [pairs, List.zip_eq_zip_take_min, List.map_fst_zip]
  · rfl
  · rw [List.length_take, List.length_take]
    omega

/-- A key with a value beside it keeps its position. -/
theorem getElem?_pairedKeys (h : i < r.values.length) : r.pairedKeys[i]? = r.keys[i]? := by
  rw [pairedKeys, List.getElem?_take]
  split
  · rfl
  · exact (List.getElem?_eq_none (by omega)).symm

theorem lt_of_getElem?_pairedKeys (h : r.pairedKeys[i]? = some key) : i < r.values.length := by
  obtain ⟨hlt, -⟩ := List.getElem?_eq_some_iff.mp h
  rw [pairedKeys, List.length_take] at hlt
  omega

/-- The first position of a key with a value is its first position of all. -/
theorem isFirst_pairedKeys_iff :
    IsFirst r.pairedKeys key i ↔ IsFirst r.keys key i ∧ i < r.values.length := by
  constructor
  · rintro ⟨hi, hbefore⟩
    have hlt := lt_of_getElem?_pairedKeys hi
    rw [getElem?_pairedKeys hlt] at hi
    refine ⟨⟨hi, ?_⟩, hlt⟩
    intro j hj
    rw [← getElem?_pairedKeys (Nat.lt_trans hj hlt)]
    exact hbefore j hj
  · rintro ⟨⟨hi, hbefore⟩, hlt⟩
    refine ⟨(getElem?_pairedKeys hlt).trans hi, ?_⟩
    intro j hj
    rw [getElem?_pairedKeys (Nat.lt_trans hj hlt)]
    exact hbefore j hj

-- ── Reading by key ─────────────────────────────────────────────────

/-- A look-up answers with what stands at the first position of the key. -/
theorem get?_of_isFirst (h : IsFirst r.keys key i) : r.get? key = r.values[i]? := by
  obtain ⟨hlt, hkey⟩ := List.getElem?_eq_some_iff.mp h.1
  have hfind : r.keys.findIdx? (· == key) = some i := by
    refine List.findIdx?_eq_some_iff_getElem.mpr ⟨hlt, beq_iff_eq.mpr hkey, ?_⟩
    intro j hj hfound
    refine h.2 j hj ?_
    rw [List.getElem?_eq_getElem (Nat.lt_trans hj hlt)]
    exact congrArg some (beq_iff_eq.mp hfound)
  rw [get?, hfind]
  rfl

/-- A key that does not occur has no value. -/
theorem get?_of_notMem (h : key ∉ r.keys) : r.get? key = none := by
  have hfind : r.keys.findIdx? (· == key) = none := by
    refine List.findIdx?_eq_none_iff.mpr ?_
    intro k hk
    refine beq_eq_false_iff_ne.mpr ?_
    rintro rfl
    exact h hk
  rw [get?, hfind]
  rfl

/-- A look-up in a record answers the value at the first position of the key, if there is one. -/
theorem get?_eq_some_iff :
    r.get? key = some v ↔ ∃ i, IsFirst r.keys key i ∧ r.values[i]? = some v := by
  constructor
  · intro h
    by_cases hmem : key ∈ r.keys
    · obtain ⟨i, hi⟩ := exists_isFirst hmem
      exact ⟨i, hi, (get?_of_isFirst hi).symm.trans h⟩
    · rw [get?_of_notMem hmem] at h
      cases h
  · rintro ⟨i, hi, hv⟩
    rw [get?_of_isFirst hi, hv]

/-- A key is found by its first position if it has a value anywhere. -/
theorem get?_eq_none_iff : r.get? key = none ↔ key ∉ r.pairedKeys := by
  constructor
  · intro h hmem
    obtain ⟨i, hi⟩ := exists_isFirst hmem
    obtain ⟨hfirst, hlt⟩ := isFirst_pairedKeys_iff.mp hi
    rw [get?_of_isFirst hfirst, List.getElem?_eq_getElem hlt] at h
    cases h
  · intro h
    rw [Option.eq_none_iff_forall_ne_some]
    intro v hv
    obtain ⟨i, hfirst, hvalue⟩ := get?_eq_some_iff.mp hv
    obtain ⟨hlt, -⟩ := List.getElem?_eq_some_iff.mp hvalue
    exact h (List.mem_of_getElem? (isFirst_pairedKeys_iff.mpr ⟨hfirst, hlt⟩).1)

-- ── Reading in the map ─────────────────────────────────────────────

/-- The pair at the last position of a key is the last pair of the key. -/
theorem lastPair_of_isLast (h : IsLast r.pairedKeys key i) (hv : r.values[i]? = some v) :
    SortedMap.LastPair r.pairs key v := by
  rw [← map_fst_pairs] at h
  obtain ⟨hkey, hbehind⟩ := h
  have hpair : r.pairs[i]? = some (key, v) := by
    rw [List.getElem?_map] at hkey
    obtain ⟨pair, hpair, rfl⟩ := Option.map_eq_some_iff.mp hkey
    obtain ⟨-, hvalue⟩ := List.getElem?_zip_eq_some.mp hpair
    cases hvalue.symm.trans hv
    exact hpair
  obtain ⟨hlt, hget⟩ := List.getElem?_eq_some_iff.mp hpair
  refine ⟨r.pairs.take i, r.pairs.drop (i + 1), ?_, ?_⟩
  · rw [← hget, List.getElem_cons_drop, List.take_append_drop]
  · rw [List.map_drop]
    intro hmem
    obtain ⟨n, hn⟩ := List.mem_iff_getElem?.mp hmem
    rw [List.getElem?_drop] at hn
    exact hbehind (i + 1 + n) (by omega) hn

/-- The map answers with what stands at the last position of the key. -/
theorem get?_toMap_of_isLast (h : IsLast r.pairedKeys key i) : r.toMap.get? key = r.values[i]? := by
  have hlt := lt_of_getElem?_pairedKeys h.1
  have hv := List.getElem?_eq_getElem hlt
  rw [toMap, SortedMap.get?_ofList_iff.mpr (lastPair_of_isLast h hv), hv]

/-- The map has the keys that have a value beside them. -/
theorem contains_toMap : r.toMap.contains key = true ↔ key ∈ r.pairedKeys := by
  rw [toMap, SortedMap.contains_ofList, map_fst_pairs]

theorem get?_toMap_eq_none_iff : r.toMap.get? key = none ↔ key ∉ r.pairedKeys := by
  rw [← contains_toMap, SortedMap.contains, Option.not_isSome_iff_eq_none]

/-- What a look-up in the map answers: the value at the last position of the key among those with
    values. -/
theorem get?_toMap_eq_some_iff :
    r.toMap.get? key = some v ↔ ∃ i, IsLast r.pairedKeys key i ∧ r.values[i]? = some v := by
  constructor
  · intro h
    have hmem : key ∈ r.pairedKeys := by
      by_contra hmem
      rw [get?_toMap_eq_none_iff.mpr hmem] at h
      cases h
    obtain ⟨i, hi⟩ := exists_isLast hmem
    exact ⟨i, hi, (get?_toMap_of_isLast hi).symm.trans h⟩
  · rintro ⟨i, hi, hv⟩
    rw [get?_toMap_of_isLast hi, hv]

-- ── One against the other ──────────────────────────────────────────

/-- Both ways find the same for a key if its first and its last position hold the same. -/
theorem get?_eq_get?_toMap_iff :
    r.get? key = r.toMap.get? key ↔ ∀ i j, IsFirst r.pairedKeys key i →
      IsLast r.pairedKeys key j → r.values[i]? = r.values[j]? := by
  constructor
  · intro heq i j hi hj
    rw [← get?_of_isFirst (isFirst_pairedKeys_iff.mp hi).1, heq, get?_toMap_of_isLast hj]
  · intro hvalues
    by_cases hmem : key ∈ r.pairedKeys
    · obtain ⟨i, hi⟩ := exists_isFirst hmem
      obtain ⟨j, hj⟩ := exists_isLast hmem
      rw [get?_of_isFirst (isFirst_pairedKeys_iff.mp hi).1, get?_toMap_of_isLast hj]
      exact hvalues i j hi hj
    · rw [get?_eq_none_iff.mpr hmem, get?_toMap_eq_none_iff.mpr hmem]

/-- Where no key occurs twice, record and map answer alike. -/
theorem get?_eq_get?_toMap_of_nodup (h : r.keys.Nodup) (key : String) :
    r.get? key = r.toMap.get? key := by
  refine get?_eq_get?_toMap_iff.mpr ?_
  intro i j hi hj
  have hdistinct : r.pairedKeys.Nodup := h.sublist (List.take_sublist _ _)
  rw [hi.eq_of_isLast hdistinct hj]

/-- **TWO WAYS TO READ A RECORD.**  By its key one finds the value at the first position of the key,
    if the values reach that far; in the map of the record, the value at the last of those positions
    that the values reach.  So both find something for the same keys, those that a value stands
    beside.  Both find the same for all keys exactly if the first and the last position of each key
    hold the same value, as they do where no key is repeated. -/
theorem get?_against_toMap (r : Record) :
    (∀ key v, r.get? key = some v ↔ ∃ i, IsFirst r.keys key i ∧ r.values[i]? = some v)
      ∧ (∀ key v, r.toMap.get? key = some v
          ↔ ∃ i, IsLast r.pairedKeys key i ∧ r.values[i]? = some v)
      ∧ (∀ key, r.toMap.get? key = none ↔ key ∉ r.pairedKeys)
      ∧ (∀ key, r.toMap.contains key = true ↔ (r.get? key).isSome = true)
      ∧ ((∀ key, r.get? key = r.toMap.get? key) ↔ ∀ key i j, IsFirst r.pairedKeys key i →
          IsLast r.pairedKeys key j → r.values[i]? = r.values[j]?)
      ∧ (r.keys.Nodup → ∀ key, r.get? key = r.toMap.get? key) := by
  refine ⟨fun key v => get?_eq_some_iff, fun key v => get?_toMap_eq_some_iff,
    fun key => get?_toMap_eq_none_iff, ?_, forall_congr' fun key => get?_eq_get?_toMap_iff,
    get?_eq_get?_toMap_of_nodup⟩
  intro key
  rw [contains_toMap, ← Option.ne_none_iff_isSome, Ne, get?_eq_none_iff, not_not]

/-- A repeated key is found twice, and a key without a value not at all. -/
example : let r : Record := ⟨["x", "y", "x", "z"], [.int 1, .int 2, .int 3]⟩
    r.get? "x" = some (.int 1) ∧ r.toMap.get? "x" = some (.int 3)
      ∧ r.get? "z" = none ∧ r.toMap.get? "z" = none := by
  decide

end GraphLink.Record
