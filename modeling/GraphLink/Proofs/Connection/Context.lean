import GraphLink.Connection.RoutingContext
import GraphLink.Proofs.SortedMap
import Mathlib.Data.Nat.Find

/-! # Which queries have a routing context

    A query has a context exactly if its decoded pairs are well-formed: no part is empty, no key is
    the reserved one, and no key occurs twice (`RoutingContext.WellFormed`).  Otherwise it is
    refused for the first pair that is bad behind the ones before it (`RoutingContext.FirstBad`).

    Reading goes from left to right, and so does the induction here, pair by pair at the end: what
    has been read of well-formed pairs is the map of just these pairs, so whether the map has a key
    is whether an earlier pair had it (`SortedMap.contains_ofList`).  A pair is then refused exactly
    if it is bad (`RoutingContext.addPair_of_bad`, `RoutingContext.addPair_of_good`). -/

namespace GraphLink

namespace RoutingContext

variable {query : String} {pairs before : List (String × String)} {pair : String × String}
  {fault : Fault}

-- ── Good and bad pairs ─────────────────────────────────────────────

/-- Pairs that make a context: both parts of each are filled, none has the reserved key, and no two
    have the same key. -/
structure WellFormed (pairs : List (String × String)) : Prop where
  filled : ∀ p ∈ pairs, p.1 ≠ "" ∧ p.2 ≠ ""
  unreserved : ∀ p ∈ pairs, p.1 ≠ "address"
  distinct : (pairs.map Prod.fst).Nodup

/-- Why a pair is bad behind earlier ones.  An empty part counts before the reserved key, and the
    reserved key before a repeated one. -/
inductive BadPair (query : String) (earlier : List (String × String)) :
    String × String → Fault → Prop where
  | emptyPart {key value : String} (hempty : key = "" ∨ value = "") :
      BadPair query earlier (key, value) (.emptyPart key value query)
  | reserved {value : String} (hvalue : value ≠ "") :
      BadPair query earlier ("address", value) .reserved
  | duplicate {key value : String} (hkey : key ≠ "") (hvalue : value ≠ "")
      (hother : key ≠ "address") (hseen : key ∈ earlier.map Prod.fst) :
      BadPair query earlier (key, value) (.duplicate key query)

/-- The first of several pairs that is bad behind the ones before it, by its place. -/
structure FirstBad (query : String) (pairs : List (String × String)) (i : Nat)
    (pair : String × String) (fault : Fault) : Prop where
  place : pairs[i]? = some pair
  bad : BadPair query (pairs.take i) pair fault
  first : ∀ j < i, ∀ p f, pairs[j]? = some p → ¬ BadPair query (pairs.take j) p f

/-- One more pair is well-formed behind well-formed ones unless it is bad. -/
theorem wellFormed_concat (query : String) : WellFormed (before ++ [pair])
    ↔ WellFormed before ∧ ∀ fault, ¬ BadPair query before pair fault := by
  constructor
  · rintro ⟨hfilled, hunreserved, hdistinct⟩
    obtain ⟨hfilled, hpair⟩ := List.forall_mem_append.mp hfilled
    obtain ⟨hunreserved, hother⟩ := List.forall_mem_append.mp hunreserved
    rw [List.map_append] at hdistinct
    refine ⟨⟨hfilled, hunreserved, List.Nodup.of_append_left hdistinct⟩, ?_⟩
    rintro fault ⟨⟩
    case emptyPart hempty =>
      obtain ⟨hkey, hvalue⟩ := hpair _ List.mem_cons_self
      exact hempty.elim hkey hvalue
    case reserved => exact hother _ List.mem_cons_self rfl
    case duplicate hseen =>
      exact List.disjoint_of_nodup_append hdistinct hseen (List.mem_singleton_self _)
  -- Each way to be bad presupposes that the earlier ones are ruled out, so they are in this order.
  · rintro ⟨hbefore, hgood⟩
    obtain ⟨key, value⟩ := pair
    have hfilled : key ≠ "" ∧ value ≠ "" := by
      rw [← not_or]
      exact fun hempty => hgood _ (.emptyPart hempty)
    have hother : key ≠ "address" := by
      rintro rfl
      exact hgood _ (.reserved hfilled.2)
    have hfresh : key ∉ before.map Prod.fst :=
      fun hseen => hgood _ (.duplicate hfilled.1 hfilled.2 hother hseen)
    refine ⟨?_, ?_, ?_⟩
    · exact List.forall_mem_append.mpr ⟨hbefore.filled, List.forall_mem_singleton.mpr hfilled⟩
    · exact List.forall_mem_append.mpr ⟨hbefore.unreserved, List.forall_mem_singleton.mpr hother⟩
    · rw [List.map_append, List.map_singleton, ← List.concat_eq_append]
      exact hbefore.distinct.concat hfresh

/-- **WELL-FORMED PAIRS ARE THOSE OF WHICH NONE IS BAD** behind the ones before it. -/
theorem wellFormed_iff (query : String) : WellFormed pairs
    ↔ ∀ j p f, pairs[j]? = some p → ¬ BadPair query (pairs.take j) p f := by
  induction pairs using List.reverseRecOn with
  | nil =>
      refine iff_of_true ⟨List.forall_mem_nil _, List.forall_mem_nil _, List.nodup_nil⟩ ?_
      intro j p f hp
      cases hp
  | append_singleton before pair ih =>
      rw [wellFormed_concat query, ih]
      constructor
      · rintro ⟨hbefore, hlast⟩ j p f hp
        -- A place in the longer list is one of the old places, the new one, or none.
        rcases Nat.lt_trichotomy j before.length with hlt | rfl | hgt
        · rw [List.getElem?_append_left hlt] at hp
          rw [List.take_append_of_le_length (Nat.le_of_lt hlt)]
          exact hbefore j p f hp
        · rw [List.getElem?_concat_length] at hp
          cases hp
          rw [List.take_left]
          exact hlast f
        · have hbeyond : (before ++ [pair]).length ≤ j := by
            rw [List.length_append, List.length_singleton]
            omega
          rw [List.getElem?_eq_none hbeyond] at hp
          cases hp
      · intro h
        refine ⟨fun j p f hp => ?_, fun f => ?_⟩
        · obtain ⟨hlt, -⟩ := List.getElem?_eq_some_iff.mp hp
          have hbad := h j p f (by rw [List.getElem?_append_left hlt, hp])
          rwa [List.take_append_of_le_length (Nat.le_of_lt hlt)] at hbad
        · have hbad := h before.length pair f List.getElem?_concat_length
          rwa [List.take_left] at hbad

/-- Pairs that are not well-formed have a first one that is bad. -/
theorem exists_firstBad (query : String) (h : ¬ WellFormed pairs) :
    ∃ i pair fault, FirstBad query pairs i pair fault := by
  classical
  have hbad : ∃ j p f, pairs[j]? = some p ∧ BadPair query (pairs.take j) p f := by
    by_contra hnone
    refine h ((wellFormed_iff query).mpr (fun j p f hp hpair => hnone ⟨j, p, f, hp, hpair⟩))
  obtain ⟨pair, fault, hpair, hfault⟩ := Nat.find_spec hbad
  refine ⟨Nat.find hbad, pair, fault, hpair, hfault, fun j hj p f hp hpair => ?_⟩
  exact Nat.find_min hbad hj ⟨p, f, hp, hpair⟩

/-- The pairs in front of the first bad one are well-formed. -/
theorem FirstBad.wellFormed_take {i : Nat} (h : FirstBad query pairs i pair fault) :
    WellFormed (pairs.take i) := by
  refine (wellFormed_iff query).mpr (fun j p f hp => ?_)
  rw [List.getElem?_take] at hp
  split at hp
  case isTrue hlt =>
    rw [List.take_take, Nat.min_eq_left (Nat.le_of_lt hlt)]
    exact h.first j hlt p f hp
  case isFalse => cases hp

-- ── Reading ────────────────────────────────────────────────────────

/-- A pair with an empty part is refused, whatever has been read before it. -/
theorem addPair_of_empty {key value : String} (h : key = "" ∨ value = "")
    (context : RoutingContext) :
    addPair query context (key, value) = .error (.emptyPart key value query) := by
  rw [addPair, if_pos]
  rwa [Bool.or_eq_true, String.isEmpty_iff, String.isEmpty_iff]

/-- A pair with two parts is added, unless its key is reserved or taken. -/
theorem addPair_of_filled {key value : String} (h : ¬ (key = "" ∨ value = ""))
    (context : RoutingContext) :
    addPair query context (key, value)
      = if key = "address" then .error .reserved
        else if context.contains key then .error (.duplicate key query)
        else .ok (context.insert key value) := by
  rw [addPair, if_neg]
  · rfl
  · rwa [Bool.or_eq_true, String.isEmpty_iff, String.isEmpty_iff]

/-- **A BAD PAIR IS REFUSED**, for what is bad about it. -/
theorem addPair_of_bad (h : BadPair query before pair fault) :
    addPair query (SortedMap.ofList before) pair = .error fault := by
  cases h with
  | emptyPart hempty => exact addPair_of_empty hempty _
  | reserved hvalue =>
      rw [addPair_of_filled (not_or.mpr ⟨by decide, hvalue⟩), if_pos rfl]
  | duplicate hkey hvalue hother hseen =>
      rw [addPair_of_filled (not_or.mpr ⟨hkey, hvalue⟩), if_neg hother,
        if_pos (SortedMap.contains_ofList.mpr hseen)]

/-- **ANY OTHER PAIR IS ADDED.** -/
theorem addPair_of_good (h : ∀ fault, ¬ BadPair query before pair fault) :
    addPair query (SortedMap.ofList before) pair = .ok (SortedMap.ofList (before ++ [pair])) := by
  obtain ⟨key, value⟩ := pair
  have hfilled : ¬ (key = "" ∨ value = "") := fun hempty => h _ (.emptyPart hempty)
  obtain ⟨hkey, hvalue⟩ := not_or.mp hfilled
  have hother : key ≠ "address" := by
    rintro rfl
    exact h _ (.reserved hvalue)
  have hfresh : ¬ (SortedMap.ofList before).contains key = true := fun hseen =>
    h _ (.duplicate hkey hvalue hother (SortedMap.contains_ofList.mp hseen))
  rw [addPair_of_filled hfilled, if_neg hother, if_neg hfresh, SortedMap.ofList_concat]

/-- Well-formed pairs are read into the map of them. -/
theorem foldlM_of_wellFormed (query : String) (h : WellFormed pairs) :
    pairs.foldlM (addPair query) SortedMap.empty = .ok (SortedMap.ofList pairs) := by
  induction pairs using List.reverseRecOn with
  | nil => rfl
  | append_singleton before pair ih =>
      obtain ⟨hbefore, hgood⟩ := (wellFormed_concat query).mp h
      rw [List.foldlM_append, ih hbefore]
      show [pair].foldlM (addPair query) (SortedMap.ofList before) = _
      rw [List.foldlM_cons, addPair_of_good hgood]
      rfl

/-- Reading ends at the first bad pair, whatever stands behind it. -/
theorem foldlM_of_firstBad {i : Nat} (h : FirstBad query pairs i pair fault) :
    pairs.foldlM (addPair query) SortedMap.empty = .error fault := by
  obtain ⟨hlt, hpair⟩ := List.getElem?_eq_some_iff.mp h.place
  have hsplit : pairs = pairs.take i ++ pair :: pairs.drop (i + 1) := by
    rw [← hpair, List.getElem_cons_drop, List.take_append_drop]
  rw [hsplit, List.foldlM_append, foldlM_of_wellFormed query h.wellFormed_take]
  show (pair :: pairs.drop (i + 1)).foldlM (addPair query) (SortedMap.ofList (pairs.take i)) = _
  rw [List.foldlM_cons, addPair_of_bad h.bad]
  rfl

/-- Well-formed pairs are the context. -/
theorem parse_of_wellFormed (h : WellFormed (Form.pairs query.toList)) :
    parse query = .ok (SortedMap.ofList (Form.pairs query.toList)) :=
  foldlM_of_wellFormed query h

/-- The first bad pair is the fault. -/
theorem parse_of_firstBad {i : Nat} (h : FirstBad query (Form.pairs query.toList) i pair fault) :
    parse query = .error fault :=
  foldlM_of_firstBad h

/-- A query that gives a context has well-formed pairs. -/
theorem wellFormed_of_parse {context : RoutingContext} (h : parse query = .ok context) :
    WellFormed (Form.pairs query.toList) := by
  by_contra hbad
  obtain ⟨i, pair, fault, hfirst⟩ := exists_firstBad query hbad
  rw [parse_of_firstBad hfirst] at h
  cases h

/-- A fault is the one of the first bad pair. -/
theorem firstBad_of_parse (h : parse query = .error fault) :
    ∃ i pair, FirstBad query (Form.pairs query.toList) i pair fault := by
  have hbad : ¬ WellFormed (Form.pairs query.toList) := by
    intro hpairs
    rw [parse_of_wellFormed hpairs] at h
    cases h
  obtain ⟨i, pair, fault', hfirst⟩ := exists_firstBad query hbad
  rw [parse_of_firstBad hfirst] at h
  cases h
  exact ⟨i, pair, hfirst⟩

/-- Whether no key and no value of a context is empty. -/
def IsFilled (context : RoutingContext) : Prop :=
  ∀ key value, context.get? key = some value → key ≠ "" ∧ value ≠ ""

/-- The context of no query is filled, having no pairs. -/
theorem isFilled_empty : IsFilled SortedMap.empty := by
  intro key value h
  cases h

/-- **WHAT A QUERY SAYS IS FILLED.** -/
theorem isFilled_of_parse {context : RoutingContext} (h : parse query = .ok context) :
    context.IsFilled := by
  have hpairs := wellFormed_of_parse h
  rw [parse_of_wellFormed hpairs] at h
  cases h
  intro key value hvalue
  exact hpairs.filled _ (SortedMap.mem_of_get?_ofList hvalue)

/-- **WHICH QUERIES HAVE A CONTEXT.**  A query has one exactly if its decoded pairs are well-formed,
    and then the context maps every key to its value and holds nothing else.  Otherwise the query
    is refused, and it is the first bad pair that says why.  As the pairs are decoded ones, the
    reserved key is refused in every piece that is decoded to it. -/
theorem parse_wellFormed (query : String) :
    ((∃ context, parse query = .ok context) ↔ WellFormed (Form.pairs query.toList))
      ∧ (∀ context, parse query = .ok context →
          (∀ p ∈ Form.pairs query.toList, context.get? p.1 = some p.2)
            ∧ context.size = (Form.pairs query.toList).length)
      ∧ (∀ fault, parse query = .error fault
          ↔ ∃ i pair, FirstBad query (Form.pairs query.toList) i pair fault)
      ∧ (∀ fault, parse query = .error fault →
          (parse query).mapError Fault.toError = .error (.configuration fault.message))
      ∧ ∀ piece ∈ Form.pieces query.toList, (Form.decodePiece piece).1 = "address" →
          ∃ fault, parse query = .error fault := by
  refine ⟨?_, ?_, ?_, ?_, ?_⟩
  · constructor
    · rintro ⟨context, h⟩
      exact wellFormed_of_parse h
    · intro h
      exact ⟨_, parse_of_wellFormed h⟩
  · intro context h
    have hpairs := wellFormed_of_parse h
    rw [parse_of_wellFormed hpairs] at h
    cases h
    refine ⟨fun p hp => SortedMap.get?_ofList_of_mem hpairs.distinct hp, ?_⟩
    exact SortedMap.size_ofList hpairs.distinct
  · intro fault
    constructor
    · exact firstBad_of_parse
    · rintro ⟨i, pair, hfirst⟩
      exact parse_of_firstBad hfirst
  · intro fault h
    rw [h]
    rfl
  · intro piece hpiece hkey
    cases h : parse query with
    | error fault => exact ⟨fault, rfl⟩
    | ok context =>
        -- A piece that is decoded to the reserved key would be among the well-formed pairs.
        have hpairs := wellFormed_of_parse h
        exact absurd hkey (hpairs.unreserved _ (List.mem_map_of_mem hpiece))

/-- The reserved key is found behind its escape, and before the key that is repeated later. -/
example : parse "a=1&&%61ddres%73=x&a=2" = .error .reserved := by
  rfl

end RoutingContext
end GraphLink
