import GraphLink.Routing.Table
import Mathlib.Data.List.Basic
import Mathlib.Data.List.Induction
import Mathlib.Data.List.Nodup

/-! # Routing tables list first mentions

    A table holds the addresses of a sequence in the order in which the sequence first mentions them
    (`FirstMentions`).  One more address keeps this up (`FirstMentions.addRouter`), so every table
    has it (`firstMentions_ofList`).

    The description leaves no choice: of two lists that fit it, one is the other
    (`FirstMentions.unique`).  What else holds of tables is read off from it: a list without
    repetitions is its own table, and of two sequences, one behind the other, the second adds what
    the first does not mention. -/

namespace GraphLink.RoutingTable

variable {xs ys routers others : List Address} {a : Address}

/-- Whether `routers` holds the addresses of `xs`, in the order of their first places in it. -/
structure FirstMentions (xs routers : List Address) : Prop where
  mem_iff : ∀ a, a ∈ routers ↔ a ∈ xs
  inOrder : routers.Pairwise (fun a b => xs.idxOf a < xs.idxOf b)

namespace FirstMentions

/-- No address is a first mention twice. -/
theorem nodup (h : FirstMentions xs routers) : routers.Nodup := by
  refine h.inOrder.imp ?_
  rintro a b hlt rfl
  exact Nat.lt_irrefl _ hlt

/-- **THE ORDER IS DETERMINED**: first places tell any two addresses apart. -/
theorem unique (h : FirstMentions xs routers) (h' : FirstMentions xs others) :
    routers = others := by
  have hperm : routers.Perm others :=
    (List.perm_ext_iff_of_nodup h.nodup h'.nodup).mpr
      (fun a => (h.mem_iff a).trans (h'.mem_iff a).symm)
  refine hperm.eq_of_pairwise ?_ h.inOrder h'.inOrder
  intro a b _ _ hlt hgt
  exact absurd hlt (Nat.lt_asymm hgt)

/-- The first places in a sequence stay what they are when it goes on. -/
theorem inOrder_append (h : FirstMentions xs routers) (ys : List Address) :
    routers.Pairwise (fun a b => (xs ++ ys).idxOf a < (xs ++ ys).idxOf b) := by
  refine h.inOrder.imp_of_mem ?_
  intro a b ha hb hlt
  rw [List.idxOf_append_of_mem ((h.mem_iff a).mp ha),
    List.idxOf_append_of_mem ((h.mem_iff b).mp hb)]
  exact hlt

/-- What a second sequence adds comes behind the first, in its own order. -/
theorem append (h : FirstMentions xs routers) (h' : FirstMentions ys others) :
    FirstMentions (xs ++ ys) (routers ++ others.filter (fun a => a ∉ xs)) := by
  have hadded : ∀ {a}, a ∈ others.filter (fun a => a ∉ xs) ↔ a ∈ ys ∧ a ∉ xs := by
    intro a
    rw [List.mem_filter, h'.mem_iff, decide_eq_true_iff]
  constructor
  · intro a
    rw [List.mem_append, List.mem_append, h.mem_iff, hadded]
    by_cases hxs : a ∈ xs
    · exact iff_of_true (.inl hxs) (.inl hxs)
    · rw [and_iff_left hxs]
  · refine List.pairwise_append.mpr ⟨h.inOrder_append ys, ?_, ?_⟩
    · refine (h'.inOrder.sublist List.filter_sublist).imp_of_mem ?_
      intro a b ha hb hlt
      rw [List.idxOf_append_of_notMem (hadded.mp ha).2,
        List.idxOf_append_of_notMem (hadded.mp hb).2]
      exact Nat.add_lt_add_left hlt _
    · intro a ha b hb
      have hmem : a ∈ xs := (h.mem_iff a).mp ha
      rw [List.idxOf_append_of_mem hmem, List.idxOf_append_of_notMem (hadded.mp hb).2]
      exact Nat.lt_add_right _ (List.idxOf_lt_length_of_mem hmem)

end FirstMentions

/-- Where no address is repeated, all mentions are first ones. -/
theorem firstMentions_of_nodup (h : xs.Nodup) : FirstMentions xs xs := by
  refine ⟨fun a => Iff.rfl, List.pairwise_iff_getElem.mpr ?_⟩
  intro i j hi hj hlt
  rw [h.idxOf_getElem i hi, h.idxOf_getElem j hj]
  exact hlt

/-- The last address is added to the table of those before it. -/
theorem routers_ofList_concat (xs : List Address) (a : Address) :
    (ofList (xs ++ [a])).routers = addRouter (ofList xs).routers a :=
  List.foldl_concat ..

/-- One more address is added if it is new. -/
theorem addRouter_eq (h : FirstMentions xs routers) (a : Address) :
    addRouter routers a = routers ++ [a].filter (fun a => a ∉ xs) := by
  rw [addRouter]
  by_cases ha : a ∈ xs
  · rw [if_pos ((h.mem_iff a).mpr ha), List.filter_cons_of_neg (by simpa using ha), List.filter_nil,
      List.append_nil]
  · rw [if_neg (fun hmem => ha ((h.mem_iff a).mp hmem)),
      List.filter_cons_of_pos (by simpa using ha), List.filter_nil]

/-- Adding one more address to first mentions gives first mentions again. -/
theorem FirstMentions.addRouter (h : FirstMentions xs routers) (a : Address) :
    FirstMentions (xs ++ [a]) (addRouter routers a) := by
  rw [addRouter_eq h]
  exact h.append (firstMentions_of_nodup (List.nodup_singleton a))

/-- **A TABLE HOLDS FIRST MENTIONS**, whatever the sequence. -/
theorem firstMentions_ofList (xs : List Address) : FirstMentions xs (ofList xs).routers := by
  induction xs using List.reverseRecOn with
  | nil => exact firstMentions_of_nodup List.nodup_nil
  | append_singleton xs a ih =>
      rw [routers_ofList_concat]
      exact ih.addRouter a

/-- A table leaves addresses out, and does not move those it keeps. -/
theorem sublist_routers_ofList (xs : List Address) : (ofList xs).routers.Sublist xs := by
  induction xs using List.reverseRecOn with
  | nil => exact List.Sublist.refl []
  | append_singleton xs a ih =>
      rw [routers_ofList_concat, addRouter_eq (firstMentions_ofList xs)]
      exact ih.append List.filter_sublist

/-- The routers of a table are the first mentions, and nothing else is. -/
theorem ofList_eq_iff : (ofList xs).routers = routers ↔ FirstMentions xs routers := by
  constructor
  · rintro rfl
    exact firstMentions_ofList xs
  · intro h
    exact (firstMentions_ofList xs).unique h

/-- A table is the table of its own routers exactly if none is in it twice. -/
theorem ofList_routers_eq_iff {table : RoutingTable} :
    ofList table.routers = table ↔ table.routers.Nodup := by
  constructor
  · intro h
    rw [← h]
    exact (firstMentions_ofList table.routers).nodup
  · intro h
    exact congrArg RoutingTable.mk (ofList_eq_iff.mpr (firstMentions_of_nodup h))

/-- **A TABLE IS ITS SEQUENCE WITHOUT REPETITIONS.**  No address occurs twice in it; the addresses
    are those of the sequence, and they come in the order in which the sequence first mentions them,
    so that they are a part of it.  No other list is like that.  Hence the table of a table's
    routers is that table, and the table of two sequences, one behind the other, is that of the
    first with what the second adds, in the order of the second's own table. -/
theorem ofList_keeps_first_mentions (xs : List Address) :
    (ofList xs).routers.Nodup
      ∧ (∀ a, a ∈ (ofList xs).routers ↔ a ∈ xs)
      ∧ (ofList xs).routers.Pairwise (fun a b => xs.idxOf a < xs.idxOf b)
      ∧ (ofList xs).routers.Sublist xs
      ∧ (∀ routers : List Address, (∀ a, a ∈ routers ↔ a ∈ xs) →
          routers.Pairwise (fun a b => xs.idxOf a < xs.idxOf b) → routers = (ofList xs).routers)
      ∧ ofList (ofList xs).routers = ofList xs
      ∧ ∀ ys, (ofList (xs ++ ys)).routers
          = (ofList xs).routers ++ (ofList ys).routers.filter (fun a => a ∉ xs) := by
  have hxs := firstMentions_ofList xs
  refine ⟨hxs.nodup, hxs.mem_iff, hxs.inOrder, sublist_routers_ofList xs, ?_, ?_, ?_⟩
  · intro routers hmem horder
    exact FirstMentions.unique ⟨hmem, horder⟩ hxs
  · exact ofList_routers_eq_iff.mpr hxs.nodup
  · intro ys
    exact ofList_eq_iff.mpr (hxs.append (firstMentions_ofList ys))

/-- The second mention of an address adds nothing, wherever it comes. -/
example : (ofList [⟨"b", 1⟩, ⟨"a", 1⟩, ⟨"b", 1⟩, ⟨"b", 2⟩]).routers
    = [⟨"b", 1⟩, ⟨"a", 1⟩, ⟨"b", 2⟩] := by
  decide

end GraphLink.RoutingTable
