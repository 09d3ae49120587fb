import GraphLink.SortedMap
import Mathlib.Data.List.Basic
import Mathlib.Data.List.Induction
import Mathlib.Data.List.Nodup

/-! # Sorted maps by their look-ups

    Two maps that answer every look-up alike are equal, so an equation between maps is proved
    look-up by look-up, and what an operation does is what it does to look-ups.

    A map made of pairs has the keys of the pairs (`contains_ofList`), and of the pairs with a key
    the last one says what it has (`get?_ofList_iff`).  If no key occurs twice, the pairs are its
    entries (`get?_ofList_of_mem`, `size_ofList`), and the order of the pairs makes no difference
    (`ofList_of_perm`). -/

namespace GraphLink

-- ── Entries ────────────────────────────────────────────────────────

section Entries

variable {α : Type} {q : String} {es : List (String × α)}

/-- What is not found is no key. -/
theorem lookup_eq_none_iff_not_mem : es.lookup q = none ↔ q ∉ es.map Prod.fst := by
  rw [List.lookup_eq_none_iff, List.mem_map]
  constructor
  · rintro h ⟨e, he, rfl⟩
    exact bne_iff_ne.mp (h e he) rfl
  · intro h e he
    exact bne_iff_ne.mpr (fun heq => h ⟨e, he, heq.symm⟩)

/-- A new key makes one more entry. -/
theorem length_insertEntry_of_absent (h : es.lookup q = none) (v : α) :
    (insertEntry q v es).length = es.length + 1 := by
  induction es with
  | nil => rfl
  | cons e rest ih =>
      obtain ⟨hne, hrest⟩ := List.mem_cons.not.trans not_or |>.mp
        (lookup_eq_none_iff_not_mem.mp h)
      rw [insertEntry]
      by_cases hlt : q < e.1
      · rw [if_pos hlt]
        rfl
      · rw [if_neg hlt, if_neg hne, List.length_cons,
          ih (lookup_eq_none_iff_not_mem.mpr hrest)]
        rfl

end Entries

namespace SortedMap

variable {α : Type} {m m' : SortedMap α} {k q : String}

-- ── Keys ───────────────────────────────────────────────────────────

/-- Nothing is found exactly for what is no key. -/
theorem get?_eq_none_iff : m.get? q = none ↔ q ∉ m.keys :=
  lookup_eq_none_iff_not_mem

/-- The keys are those that have a value. -/
theorem mem_keys_iff : q ∈ m.keys ↔ ∃ value, m.get? q = some value := by
  rw [← Option.ne_none_iff_exists', Ne, get?_eq_none_iff, not_not]

theorem contains_iff : m.contains q = true ↔ q ∈ m.keys := by
  rw [contains, mem_keys_iff, Option.isSome_iff_exists]

/-- Keys are listed in their order. -/
theorem pairwise_keys (m : SortedMap α) : m.keys.Pairwise (· < ·) :=
  List.pairwise_map.mpr m.ascending

-- ── Taking out and putting in ──────────────────────────────────────

theorem get?_erase_of_ne (m : SortedMap α) (h : q ≠ k) : (m.erase k).get? q = m.get? q := by
  rw [get?_erase, if_neg h]

/-- Erasing what is not there changes nothing. -/
theorem erase_of_absent (h : m.get? k = none) : m.erase k = m := by
  refine ext_get? (fun q => ?_)
  rw [get?_erase]
  by_cases hq : q = k
  · rw [if_pos hq, hq, h]
  · rw [if_neg hq]

/-- An entry that is overwritten makes no difference. -/
theorem insert_congr (h : ∀ q, q ≠ k → m'.get? q = m.get? q) (value : α) :
    m'.insert k value = m.insert k value := by
  refine ext_get? (fun q => ?_)
  rw [get?_insert, get?_insert]
  by_cases hq : q = k
  · rw [if_pos hq, if_pos hq]
  · rw [if_neg hq, if_neg hq, h q hq]

/-- Of two maps, one inserted into the other, the inserted one answers first. -/
theorem get?_insertMany_entries (m n : SortedMap α) (q : String) :
    (m.insertMany n.entries).get? q = (n.get? q).or (m.get? q) := by
  obtain ⟨entries, hentries⟩ := n
  show (m.insertMany entries).get? q = (entries.lookup q).or (m.get? q)
  induction entries generalizing m with
  | nil => rfl
  | cons e rest ih =>
      obtain ⟨hfirst, hrest⟩ := List.pairwise_cons.mp hentries
      show ((m.insert e.1 e.2).insertMany rest).get? q = _
      rw [ih (m.insert e.1 e.2) hrest, get?_insert, lookup_entry_cons]
      by_cases heq : q = e.1
      · -- No later entry has the key of the first, so what was inserted first stays.
        rw [if_pos heq, if_pos heq, heq, lookup_eq_none_of_forall_lt hfirst]
        rfl
      · rw [if_neg heq, if_neg heq]

-- ── Maps of pairs ──────────────────────────────────────────────────

variable {pairs : List (String × α)} {pair : String × α}

theorem ofList_concat (before : List (String × α)) (pair : String × α) :
    ofList (before ++ [pair]) = (ofList before).insert pair.1 pair.2 :=
  List.foldl_concat _ _ _ _

/-- A map made of pairs has the keys of the pairs. -/
theorem contains_ofList : (ofList pairs).contains q = true ↔ q ∈ pairs.map Prod.fst := by
  induction pairs using List.reverseRecOn with
  | nil => exact iff_of_false Bool.false_ne_true List.not_mem_nil
  | append_singleton before pair ih =>
      rw [ofList_concat, contains, get?_insert, List.map_append, List.mem_append, ← ih,
        List.map_singleton, List.mem_singleton]
      by_cases heq : q = pair.1
      · rw [if_pos heq]
        exact iff_of_true rfl (.inr heq)
      · rw [if_neg heq]
        exact (or_iff_left heq).symm

/-- What is in the map comes from a pair. -/
theorem mem_of_get?_ofList {value : α} (h : (ofList pairs).get? q = some value) :
    (q, value) ∈ pairs := by
  induction pairs using List.reverseRecOn with
  | nil => cases h
  | append_singleton before last ih =>
      rw [ofList_concat, get?_insert] at h
      by_cases heq : q = last.1
      · rw [if_pos heq] at h
        cases h
        rw [heq]
        exact List.mem_append_right _ (List.mem_singleton_self last)
      · rw [if_neg heq] at h
        exact List.mem_append_left _ (ih h)

/-- If no key occurs twice, every pair is in the map. -/
theorem get?_ofList_of_mem (hdistinct : (pairs.map Prod.fst).Nodup) (h : pair ∈ pairs) :
    (ofList pairs).get? pair.1 = some pair.2 := by
  induction pairs using List.reverseRecOn with
  | nil => cases h
  | append_singleton before last ih =>
      rw [List.map_append] at hdistinct
      rw [ofList_concat]
      rcases List.mem_append.mp h with hbefore | hlast
      · have hne : pair.1 ≠ last.1 := by
          intro heq
          refine List.disjoint_of_nodup_append hdistinct (List.mem_map_of_mem hbefore) ?_
          exact List.mem_singleton.mpr heq
        rw [get?_insert_of_ne _ hne, ih (List.Nodup.of_append_left hdistinct) hbefore]
      · rw [List.mem_singleton.mp hlast, get?_insert_self]

/-- If no key occurs twice, the map has as many entries as there are pairs. -/
theorem size_ofList (hdistinct : (pairs.map Prod.fst).Nodup) :
    (ofList pairs).size = pairs.length := by
  induction pairs using List.reverseRecOn with
  | nil => rfl
  | append_singleton before last ih =>
      rw [List.map_append] at hdistinct
      have habsent : (ofList before).get? last.1 = none := by
        rw [← Option.not_isSome_iff_eq_none]
        intro hcontains
        refine List.disjoint_of_nodup_append hdistinct (contains_ofList.mp hcontains) ?_
        exact List.mem_singleton_self last.1
      rw [ofList_concat, List.length_append, List.length_singleton,
        ← ih (List.Nodup.of_append_left hdistinct)]
      exact length_insertEntry_of_absent habsent last.2

-- ── The last pair of a key ─────────────────────────────────────────

variable {key : String} {value : α}

/-- The value of the last pair with a key. -/
def LastPair (pairs : List (String × α)) (key : String) (value : α) : Prop :=
  ∃ before after, pairs = before ++ (key, value) :: after ∧ key ∉ after.map Prod.fst

/-- Pairs leave alone what is none of their keys. -/
theorem get?_insertMany_of_notMem (m : SortedMap α) (h : key ∉ pairs.map Prod.fst) :
    (m.insertMany pairs).get? key = m.get? key := by
  induction pairs generalizing m with
  | nil => rfl
  | cons pair pairs ih =>
      obtain ⟨hne, hrest⟩ := not_or.mp (List.mem_cons.not.mp h)
      show ((m.insert pair.1 pair.2).insertMany pairs).get? key = _
      rw [ih _ hrest, get?_insert_of_ne m hne]

/-- The last pair of a key says what the map has for it. -/
theorem get?_insertMany_of_lastPair (m : SortedMap α) (h : LastPair pairs key value) :
    (m.insertMany pairs).get? key = some value := by
  obtain ⟨before, after, rfl, hlast⟩ := h
  rw [insertMany, List.foldl_append, List.foldl_cons]
  exact (get?_insertMany_of_notMem _ hlast).trans (get?_insert_self _ key value)

/-- A key that occurs in pairs has a last one. -/
theorem exists_lastPair (h : key ∈ pairs.map Prod.fst) : ∃ value, LastPair pairs key value := by
  induction pairs with
  | nil => cases h
  | cons pair pairs ih =>
      by_cases hrest : key ∈ pairs.map Prod.fst
      · obtain ⟨value, before, after, rfl, hlast⟩ := ih hrest
        exact ⟨value, pair :: before, after, rfl, hlast⟩
      · have heq : key = pair.1 := (List.mem_cons.mp h).resolve_right hrest
        exact ⟨pair.2, [], pairs, by rw [heq]; rfl, hrest⟩

/-- A map made of pairs has what the last ones say. -/
theorem get?_ofList_iff : (ofList pairs).get? key = some value ↔ LastPair pairs key value := by
  refine ⟨fun h => ?_, get?_insertMany_of_lastPair _⟩
  have hmem : key ∈ pairs.map Prod.fst := List.mem_map_of_mem (f := Prod.fst) (mem_of_get?_ofList h)
  obtain ⟨last, hlast⟩ := exists_lastPair hmem
  cases (get?_insertMany_of_lastPair _ hlast).symm.trans h
  exact hlast

-- ── The entries of a map ───────────────────────────────────────────

theorem nodup_keys (m : SortedMap α) : m.keys.Nodup := by
  refine m.pairwise_keys.imp ?_
  rintro k q hlt rfl
  exact String.lt_irrefl k hlt

/-- A map is made of its own entries. -/
theorem ofList_entries (m : SortedMap α) : ofList m.entries = m := by
  refine ext_get? (fun q => ?_)
  rw [ofList, get?_insertMany_entries, get?_empty, Option.or_none]

/-- The entries are what look-ups answer. -/
theorem mem_entries_iff {value : α} : (k, value) ∈ m.entries ↔ m.get? k = some value := by
  constructor
  · intro h
    have hget := get?_ofList_of_mem (nodup_keys m) h
    rwa [ofList_entries] at hget
  · intro h
    rw [← ofList_entries m] at h
    exact mem_of_get?_ofList h

/-- The entries of a map make up the map in whatever order they come. -/
theorem ofList_of_perm (h : pairs.Perm m.entries) : ofList pairs = m := by
  have hdistinct : (pairs.map Prod.fst).Nodup :=
    (h.map Prod.fst).nodup_iff.mpr (nodup_keys m)
  refine ext_get? (fun q => ?_)
  cases hget : m.get? q with
  | some value =>
      exact get?_ofList_of_mem hdistinct (h.mem_iff.mpr (mem_entries_iff.mpr hget))
  | none =>
      by_contra hsome
      obtain ⟨value, hvalue⟩ := Option.ne_none_iff_exists'.mp hsome
      have hmem := mem_entries_iff.mp (h.mem_iff.mp (mem_of_get?_ofList hvalue))
      rw [hget] at hmem
      cases hmem

end SortedMap
end GraphLink
