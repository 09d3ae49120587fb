import GraphLink.Config.History
import GraphLink.Proofs.Config.Remainder
import GraphLink.Proofs.Text.ByteOrder

/-! # A bag is a finite map, whatever its history

    `Writes` and `Removes` say what a step does to one key, and they look at nothing but the values
    that the bag has for keys.  A taking reaches the settings up to the first that is not met
    (`Reaches`), and takes the entries of those; so a step that fails is no exception.

    What a step does not touch it leaves (`Step.get?_run_of_not_touches`).  So what a bag has for a
    key is the doing of the last step that touched it (`get?_after_iff`), and that is all there is
    to know of a bag: its keys are in order, and it is its keys that are counted and reported. -/

namespace GraphLink

open Options

-- ── What a taking reaches ──────────────────────────────────────────

variable {σ : Type} {settings front back : List Setting} {s : Setting} {o : Options}
  {key : String} {value : Value}

/-- Whether a taking gets as far as the setting with a key: all before it are met. -/
inductive Reaches (o : Options) : List Setting → String → Prop where
  | here {s : Setting} {rest : List Setting} : Reaches o (s :: rest) s.key
  | later {s : Setting} {rest : List Setting} {key : String} (hmet : s.IsMetBy o)
      (h : Reaches o rest key) : Reaches o (s :: rest) key

/-- Past a setting that is met a taking goes on. -/
theorem reaches_cons_of_met (hmet : s.IsMetBy o) :
    Reaches o (s :: back) key ↔ key = s.key ∨ Reaches o back key := by
  constructor
  · intro h
    cases h with
    | here => exact .inl rfl
    | later _ h => exact .inr h
  · rintro (rfl | h)
    · exact .here
    · exact .later hmet h

/-- At a setting that is not met a taking ends. -/
theorem reaches_cons_of_unmet (hunmet : ¬ s.IsMetBy o) :
    Reaches o (s :: back) key ↔ key = s.key := by
  constructor
  · intro h
    cases h with
    | here => rfl
    | later hmet _ => exact absurd hmet hunmet
  · rintro rfl
    exact .here

/-- Past settings that are all met a taking goes on. -/
theorem reaches_append_of_met (hmet : ∀ t ∈ front, t.IsMetBy o) :
    Reaches o (front ++ back) key ↔ key ∈ front.map Setting.key ∨ Reaches o back key := by
  induction front with
  | nil => exact (or_iff_right List.not_mem_nil).symm
  | cons t front ih =>
      obtain ⟨ht, hfront⟩ := List.forall_mem_cons.mp hmet
      rw [List.cons_append, reaches_cons_of_met ht, ih hfront, List.map_cons, List.mem_cons,
        or_assoc]

/-- **WHAT A TAKING REACHES IT TAKES OUT**, and nothing else, whether it fails or not. -/
theorem TakesOut.exists_keys {taken : Except Fault σ × Options} (h : TakesOut settings o taken) :
    ∃ keys : List String, (∀ key, Reaches o settings key ↔ key ∈ keys)
      ∧ taken.2.entries = o.entries.filter (fun e => e.1 ∉ keys) := by
  cases h with
  | all hmet hrest =>
      refine ⟨settings.map Setting.key, fun key => ?_, hrest⟩
      have hreach : Reaches o (settings ++ []) key
          ↔ key ∈ settings.map Setting.key ∨ Reaches o [] key := reaches_append_of_met hmet
      rw [List.append_nil] at hreach
      rw [hreach]
      exact or_iff_left (fun h => by cases h)
  | upTo hsettings hmet hvalue hrule _ hrest _ =>
      refine ⟨_, fun key => ?_, hrest⟩
      rw [hsettings, reaches_append_of_met hmet,
        reaches_cons_of_unmet (fun h => hrule (h _ hvalue)), List.map_append, List.mem_append,
        List.map_singleton, List.mem_singleton]

/-- What a taking reaches is not left behind. -/
theorem TakesOut.get?_of_reaches {taken : Except Fault σ × Options}
    (h : TakesOut settings o taken) (hkey : Reaches o settings key) : taken.2.get? key = none := by
  obtain ⟨keys, hkeys, hrest⟩ := h.exists_keys
  rw [SortedMap.get?, hrest, lookup_filter_key (· ∉ keys),
    if_neg (not_not.mpr ((hkeys key).mp hkey))]

/-- What a taking does not reach is left as it is. -/
theorem TakesOut.get?_of_not_reaches {taken : Except Fault σ × Options}
    (h : TakesOut settings o taken) (hkey : ¬ Reaches o settings key) :
    taken.2.get? key = o.get? key := by
  obtain ⟨keys, hkeys, hrest⟩ := h.exists_keys
  rw [SortedMap.get?, hrest, lookup_filter_key (· ∉ keys),
    if_pos (fun hmem => hkey ((hkeys key).mpr hmem))]
  rfl

/-- Each layer takes out its settings, up to the first that is not met. -/
theorem LayerName.takesOut_take (name : LayerName) (o : Options) :
    TakesOut name.settings o (name.take o) := by
  obtain ⟨σ, l, wrap, hlayer⟩ := name.exists_standsFor
  rw [hlayer.take]
  exact (Layer.takesOut_takeOver hlayer.nodup hlayer.follows l.defaults o).map wrap

-- ── One step ───────────────────────────────────────────────────────

namespace Options

namespace Step

/-- The steps that give a key a value, in a bag. -/
inductive Writes (o : Options) (key : String) (value : Value) : Step → Prop where
  | insert : Writes o key value (.insert key value)
  | put : Writes o key value (.put key value)
  | insertNew (habsent : o.get? key = none) : Writes o key value (.insertNew key value)
  | extend {pairs : List (String × Value)} (h : SortedMap.LastPair pairs key value) :
      Writes o key value (.extend pairs)
  | collect {pairs : List (String × Value)} (h : SortedMap.LastPair pairs key value) :
      Writes o key value (.collect pairs)

/-- The steps after which a key has no value, in a bag. -/
inductive Removes (o : Options) (key : String) : Step → Prop where
  | remove : Removes o key (.remove key)
  | collect {pairs : List (String × Value)} (h : key ∉ pairs.map Prod.fst) :
      Removes o key (.collect pairs)
  | take {name : LayerName} (h : Reaches o name.settings key) : Removes o key (.take name)
  | takeOver {base : WorkspaceConfig} (h : Reaches o WorkspaceConfig.settings key) :
      Removes o key (.takeOver base)

/-- Whether a step does anything to a key. -/
def Touches (o : Options) (key : String) (step : Step) : Prop :=
  (∃ value, step.Writes o key value) ∨ step.Removes o key

variable {step : Step}

/-- A key that is written has the value. -/
theorem get?_run_of_writes (h : step.Writes o key value) :
    (step.run o).2.get? key = some value := by
  cases h with
  | insert => exact SortedMap.get?_insert_self o key value
  | put => exact SortedMap.get?_insert_self o key value
  | insertNew habsent =>
      show (o.insertNew key value).2.get? key = _
      rw [insertNew_of_absent habsent, SortedMap.get?_insert_self]
  | extend h => exact SortedMap.get?_insertMany_of_lastPair o h
  | collect h => exact SortedMap.get?_insertMany_of_lastPair _ h

/-- A key that is taken out has none. -/
theorem get?_run_of_removes (h : step.Removes o key) : (step.run o).2.get? key = none := by
  cases h with
  | remove => exact (o.get?_erase key key).trans (if_pos rfl)
  | collect h => exact SortedMap.get?_insertMany_of_notMem _ h
  | take h => exact (LayerName.takesOut_take _ o).get?_of_reaches h
  | takeOver h =>
      exact (Layer.takesOut_takeOver WorkspaceConfig.nodup_keys_layer
        WorkspaceConfig.follows_settings _ o).get?_of_reaches h

/-- A key that is not touched has what it had. -/
theorem get?_run_of_not_touches (h : ¬ step.Touches o key) :
    (step.run o).2.get? key = o.get? key := by
  obtain ⟨hwrites, hremoves⟩ := not_or.mp h
  cases step with
  | insert k value =>
      refine SortedMap.get?_insert_of_ne o ?_ value
      rintro rfl
      exact hwrites ⟨value, .insert⟩
  | put k value =>
      refine SortedMap.get?_insert_of_ne o ?_ value
      rintro rfl
      exact hwrites ⟨value, .put⟩
  | insertNew k value =>
      show (o.insertNew k value).2.get? key = _
      -- Only a key that is free is written.
      cases hk : o.get? k with
      | some old =>
          rw [Options.insertNew, SortedMap.contains, hk]
          rfl
      | none =>
          rw [insertNew_of_absent hk]
          refine SortedMap.get?_insert_of_ne o ?_ value
          rintro rfl
          exact hwrites ⟨value, .insertNew hk⟩
  | remove k =>
      refine o.get?_erase_of_ne ?_
      rintro rfl
      exact hremoves .remove
  | extend pairs =>
      refine SortedMap.get?_insertMany_of_notMem o (fun hmem => ?_)
      obtain ⟨value, hlast⟩ := SortedMap.exists_lastPair hmem
      exact hwrites ⟨value, .extend hlast⟩
  | collect pairs =>
      -- A new bag touches every key: those of the pairs are written, and all others taken out.
      by_cases hmem : key ∈ pairs.map Prod.fst
      · obtain ⟨value, hlast⟩ := SortedMap.exists_lastPair hmem
        exact absurd ⟨value, .collect hlast⟩ hwrites
      · exact absurd (.collect hmem) hremoves
  | take name => exact (name.takesOut_take o).get?_of_not_reaches (fun h => hremoves (.take h))
  | takeOver base =>
      exact (Layer.takesOut_takeOver WorkspaceConfig.nodup_keys_layer
        WorkspaceConfig.follows_settings base o).get?_of_not_reaches
          (fun h => hremoves (.takeOver h))

end Step

-- ── Histories ──────────────────────────────────────────────────────

variable {steps : List Step} {step : Step}

/-- One more step is taken on the bag that the steps have led to. -/
theorem after_concat (steps : List Step) (step : Step) :
    after (steps ++ [step]) = (step.run (after steps)).2 :=
  List.foldl_concat _ _ _ _

/-- More steps go on from there. -/
theorem after_append (steps more : List Step) :
    after (steps ++ more) = more.foldl (fun o step => (step.run o).2) (after steps) :=
  List.foldl_append

/-- A value stands for a key after steps: one of them wrote it, and none behind that one touched the
    key. -/
def Stands (steps : List Step) (key : String) (value : Value) : Prop :=
  ∃ before step behind, steps = before ++ step :: behind
    ∧ step.Writes (after before) key value
    ∧ ∀ more later rest, behind = more ++ later :: rest →
        ¬ later.Touches (after (before ++ step :: more)) key

/-- A value still stands after a step that does not touch its key. -/
theorem Stands.concat (h : Stands steps key value) (hstep : ¬ step.Touches (after steps) key) :
    Stands (steps ++ [step]) key value := by
  obtain ⟨before, writer, behind, rfl, hwrites, hbehind⟩ := h
  refine ⟨before, writer, behind ++ [step], List.append_assoc _ _ _, hwrites, ?_⟩
  intro more later rest heq
  rcases List.eq_nil_or_concat rest with rfl | ⟨rest, last, rfl⟩
  · obtain ⟨rfl, hlast⟩ := List.append_inj' heq rfl
    cases hlast
    exact hstep
  · rw [List.concat_eq_append, ← List.cons_append, ← List.append_assoc] at heq
    exact hbehind more later rest (List.append_inj' heq rfl).1

/-- What stands was written last, or it stood before and was not touched. -/
theorem stands_concat : Stands (steps ++ [step]) key value
    ↔ step.Writes (after steps) key value
      ∨ ¬ step.Touches (after steps) key ∧ Stands steps key value := by
  constructor
  · rintro ⟨before, writer, behind, heq, hwrites, hbehind⟩
    rcases List.eq_nil_or_concat behind with rfl | ⟨behind, last, rfl⟩
    · obtain ⟨rfl, hlast⟩ := List.append_inj' heq rfl
      cases hlast
      exact .inl hwrites
    · rw [List.concat_eq_append] at heq hbehind
      rw [← List.cons_append, ← List.append_assoc] at heq
      obtain ⟨rfl, hlast⟩ := List.append_inj' heq rfl
      cases hlast
      refine .inr ⟨hbehind behind step [] rfl, before, writer, behind, rfl, hwrites, ?_⟩
      rintro more later rest rfl
      exact hbehind more later (rest ++ [step]) (List.append_assoc _ _ _)
  · rintro (hwrites | ⟨hstep, hstands⟩)
    · refine ⟨steps, step, [], rfl, hwrites, ?_⟩
      intro more later rest heq
      cases List.append_ne_nil_of_right_ne_nil more (List.cons_ne_nil later rest) heq.symm
    · exact hstands.concat hstep

/-- **THE LAST WORD ON A KEY**: a bag has for it what was written last and not touched since. -/
theorem get?_after_iff : (after steps).get? key = some value ↔ Stands steps key value := by
  induction steps using List.reverseRecOn with
  | nil =>
      refine iff_of_false (fun h => ?_) ?_
      · cases h
      · rintro ⟨before, step, behind, heq, -⟩
        exact List.append_ne_nil_of_right_ne_nil before (List.cons_ne_nil step behind) heq.symm
  | append_singleton steps step ih =>
      rw [after_concat, stands_concat, ← ih]
      by_cases hwrites : ∃ written, step.Writes (after steps) key written
      · obtain ⟨written, hwritten⟩ := hwrites
        have htouch : step.Touches (after steps) key := .inl ⟨written, hwritten⟩
        rw [or_iff_left (fun h => h.1 htouch)]
        refine ⟨fun h => ?_, Step.get?_run_of_writes⟩
        cases (Step.get?_run_of_writes hwritten).symm.trans h
        exact hwritten
      · by_cases hremoves : step.Removes (after steps) key
        · refine iff_of_false (fun h => ?_) ?_
          · cases (Step.get?_run_of_removes hremoves).symm.trans h
          · rintro (h | h)
            · exact hwrites ⟨value, h⟩
            · exact h.1 (.inr hremoves)
        · have hstep : ¬ step.Touches (after steps) key := not_or.mpr ⟨hwrites, hremoves⟩
          rw [Step.get?_run_of_not_touches hstep, and_iff_right hstep]
          exact (or_iff_right (fun h => hwrites ⟨value, h⟩)).symm

-- ── Refinement ─────────────────────────────────────────────────────

/-- Keys are listed in the order of their bytes. -/
theorem keys_byteOrder (o : Options) :
    o.keys.Pairwise (fun a b => Text.utf8 a.toList < Text.utf8 b.toList) :=
  o.pairwise_keys.imp (fun hlt => Text.utf8_lt_utf8 (String.lt_iff.mp hlt))

/-- A bag is empty exactly if it has no key. -/
theorem isEmpty_iff : o.isEmpty = true ↔ o.keys = [] := by
  rw [SortedMap.isEmpty, List.isEmpty_iff, SortedMap.keys, List.map_eq_nil_iff]

/-- The keys of a bag are in order already, so the report gives them as they are. -/
theorem ofUnknownKeys_keys (o : Options) : Error.ofUnknownKeys o.keys = .unknownOptions o.keys := by
  rw [Error.ofUnknownKeys, List.mergeSort_of_pairwise]
  exact o.pairwise_keys.imp (fun hlt => decide_eq_true (Std.le_of_lt hlt))

/-- What is left is reported as unknown, all keys of it and in order. -/
theorem ensureConsumed_mapError (o : Options) : (ensureConsumed o).mapError Fault.toError
    = if o.keys = [] then .ok () else .error (.unknownOptions o.keys) := by
  by_cases hkeys : o.keys = []
  · rw [if_pos hkeys, ensureConsumed, if_pos (isEmpty_iff.mpr hkeys)]
    rfl
  · rw [if_neg hkeys, ensureConsumed, if_neg (isEmpty_iff.not.mpr hkeys)]
    rfl

/-- A bag is a finite map: its keys are those that have a value, in the order of their bytes and
    none twice, and what is counted and what is reported are the keys. -/
structure Refines (o : Options) (holds : String → Value → Prop) : Prop where
  get?_iff : ∀ key value, o.get? key = some value ↔ holds key value
  mem_keys : ∀ key, key ∈ o.keys ↔ ∃ value, holds key value
  ascending : o.keys.Pairwise (fun a b => Text.utf8 a.toList < Text.utf8 b.toList)
  nodup : o.keys.Nodup
  size : o.size = o.keys.length
  isEmpty : o.isEmpty = true ↔ o.keys = []
  ensureConsumed : (ensureConsumed o).mapError Fault.toError
    = if o.keys = [] then .ok () else .error (.unknownOptions o.keys)
  report : Error.ofUnknownKeys o.keys = .unknownOptions o.keys

/-- Look-ups say all that there is to say of a bag. -/
theorem refines_of_get?_iff {holds : String → Value → Prop}
    (h : ∀ key value, o.get? key = some value ↔ holds key value) : o.Refines holds where
  get?_iff := h
  mem_keys key := SortedMap.mem_keys_iff.trans (exists_congr (h key))
  ascending := o.keys_byteOrder
  nodup := o.nodup_keys
  size := (List.length_map _).symm
  isEmpty := isEmpty_iff
  ensureConsumed := o.ensureConsumed_mapError
  report := o.ofUnknownKeys_keys

/-- Pairs that are put in at once are put in one by one. -/
theorem after_map_insert (steps : List Step) (pairs : List (String × Value)) :
    after (steps ++ pairs.map (fun e => .insert e.1 e.2)) = after (steps ++ [.extend pairs]) := by
  rw [after_append, List.foldl_map, after_concat]
  rfl

/-- Putting in a new key says whether it was new. -/
theorem run_insertNew (o : Options) (key : String) (value : Value) :
    ((Step.insertNew key value).run o).1 = .added (o.get? key).isNone := by
  show Step.Answer.added (o.insertNew key value).1 = _
  rw [insertNew, SortedMap.contains]
  cases o.get? key <;> rfl

/-- **A BAG IS A FINITE MAP, WHATEVER ITS HISTORY**, failed takings included: a key has what was
    written last and not taken out since.  A step that puts in or takes out says what the key had
    before, and one that puts in nothing but new keys says whether the key was new.  Pairs that are
    put in at once are put in one by one, and a bag that is made of them is the empty bag with them
    put in. -/
theorem after_refines_map (steps : List Step) :
    (after steps).Refines (Stands steps)
      ∧ (∀ key value,
          ((Step.insert key value).run (after steps)).1 = .previous ((after steps).get? key)
            ∧ ((Step.remove key).run (after steps)).1 = .previous ((after steps).get? key)
            ∧ ((Step.insertNew key value).run (after steps)).1
                = .added ((after steps).get? key).isNone)
      ∧ ∀ pairs,
          after (steps ++ [.extend pairs])
              = after (steps ++ pairs.map (fun e => .insert e.1 e.2))
            ∧ after (steps ++ [.collect pairs]) = after [.extend pairs]
            ∧ ∀ key value, (after (steps ++ [.collect pairs])).get? key = some value
                ↔ SortedMap.LastPair pairs key value := by
  refine ⟨refines_of_get?_iff (fun _ _ => get?_after_iff), fun key value => ?_, fun pairs => ?_⟩
  · exact ⟨rfl, rfl, run_insertNew _ key value⟩
  · have hcollect : after (steps ++ [.collect pairs]) = after [.extend pairs] :=
      after_concat steps _
    refine ⟨(after_map_insert steps pairs).symm, hcollect, fun key value => ?_⟩
    rw [hcollect]
    exact SortedMap.get?_ofList_iff

/-- A taking that fails has taken out what it reached. -/
example : (after [.insert "fetch_size" .null, .put "database" (.string "d"),
    .put "impersonated_user" .null, .take .workspace]).keys = ["impersonated_user"] := by
  rfl

end Options
end GraphLink
