import GraphLink.Proofs.Options.Taking

/-! # What consuming a bag comes to

    A layer that consumes a bag takes what it knows, and nothing may be left.  So there are three
    outcomes: the fault of its first field that has one, the keys that it does not know, or its
    value (`Layer.consumeOver_eq`).

    A bag can be put on top of another, entry by entry.  Where a layer has consumed the one below,
    consuming the upper bag on top of the result is consuming both at once
    (`Layer.consumeOver_of_consume`): layering is merging. -/

namespace GraphLink

-- ── Bags ───────────────────────────────────────────────────────────

namespace Options

variable {o o₁ : Options} {keys : List String}

/-- Nothing is left in a bag that has been consumed. -/
theorem absent_of_ensureConsumed {u : Unit} (h : ensureConsumed o = .ok u) (q : String) :
    o.get? q = none := by
  rw [ensureConsumed] at h
  split at h
  · rename_i hempty
    rw [SortedMap.get?, List.isEmpty_iff.mp hempty]
    rfl
  · cases h

/-- A bag that is not empty is refused for all its keys. -/
theorem ensureConsumed_of_mem {key : String} (h : key ∈ o.keys) :
    ensureConsumed o = .error (.unknown o.keys) := by
  rw [ensureConsumed, if_neg]
  intro hempty
  rw [SortedMap.keys, List.isEmpty_iff.mp hempty] at h
  cases h

/-- What is left are the keys that were not taken out. -/
theorem mem_keys_without {key : String} :
    key ∈ (o.without keys).keys ↔ key ∈ o.keys ∧ key ∉ keys := by
  rw [SortedMap.mem_keys_iff, SortedMap.mem_keys_iff, get?_without]
  by_cases hkey : key ∈ keys
  · rw [if_pos hkey]
    exact iff_of_false (fun ⟨_, h⟩ => Option.some_ne_none _ h.symm) (fun h => h.2 hkey)
  · rw [if_neg hkey]
    exact (and_iff_left hkey).symm

/-- A lower bag that has no other keys adds nothing to what is left. -/
theorem without_insertMany (h : ∀ q, (o₁.without keys).get? q = none) (o₂ : Options) :
    without (o₁.insertMany o₂.entries) keys = o₂.without keys := by
  refine SortedMap.ext_get? (fun q => ?_)
  have hlower := h q
  rw [get?_without] at hlower ⊢
  rw [get?_without]
  by_cases hq : q ∈ keys
  · rw [if_pos hq, if_pos hq]
  · rw [if_neg hq] at hlower ⊢
    rw [if_neg hq, SortedMap.get?_insertMany_entries, hlower, Option.or_none]

end Options

-- ── Fields ─────────────────────────────────────────────────────────

namespace Field

variable {σ τ α : Type} {f : Field σ} {o o₁ o₂ : Options}

/-- Reading a field from the lower of two bags, then from the upper one, is reading it from both at
    once, unless the upper one has a value that cannot be converted. -/
theorem valueOr_insertMany {convert : Value → Option α} {set : α → σ → σ}
    (hread : ∀ value, f.read value = (convert value).map set) (h : f.fault? o₂ = none)
    (o₁ : Options) (default : α) :
    Options.valueOr (o₁.insertMany o₂.entries) f.key convert default
      = o₂.valueOr f.key convert (o₁.valueOr f.key convert default) := by
  rw [Options.valueOr, Options.valueOr, SortedMap.get?_insertMany_entries]
  cases hvalue : o₂.get? f.key with
  | none => rfl
  | some value =>
      rw [fault?, hvalue, Option.bind_some, admits, hread] at h
      cases hconvert : convert value with
      | none =>
          rw [hconvert] at h
          cases h
      | some a => simp only [Option.some_or, Option.bind_some, hconvert, Option.getD_some]

/-- A field that has no fault in the lower of two bags has the fault of the upper one. -/
theorem fault?_insertMany (h : f.fault? o₁ = none) (o₂ : Options) :
    f.fault? (o₁.insertMany o₂.entries) = f.fault? o₂ := by
  cases hvalue : o₂.get? f.key with
  | none =>
      have hget : SortedMap.get? (o₁.insertMany o₂.entries) f.key = o₁.get? f.key := by
        rw [SortedMap.get?_insertMany_entries, hvalue, Option.none_or]
      rw [fault?_congr hget, h, fault?, hvalue]
      rfl
  | some value =>
      refine fault?_congr ?_
      rw [SortedMap.get?_insertMany_entries, hvalue, Option.some_or]

/-- A key that is not set is no fault. -/
theorem fault?_of_absent (h : o.get? f.key = none) : f.fault? o = none := by
  rw [fault?, h]
  rfl

/-- A field has the same faults wherever it stands. -/
theorem fault?_within (f : Field σ) (modify : (σ → σ) → τ → τ) (o : Options) :
    (f.within modify).fault? o = f.fault? o := by
  have hadmits : (f.within modify).admits = f.admits := funext (fun _ => Option.isSome_map)
  rw [fault?, fault?, hadmits]
  rfl

/-- What a field sets in a part of a configuration is what it sets in that part alone. -/
theorem setFrom_within (f : Field σ) {modify : (σ → σ) → τ → τ} {part : τ → σ}
    {put : σ → τ → τ} (hmodify : ∀ set c, modify set c = put (set (part c)) c)
    (hput : ∀ c, put (part c) c = c) (o : Options) (c : τ) :
    (f.within modify).setFrom o c = put (f.setFrom o (part c)) c := by
  show (((o.get? f.key).bind (fun v => (f.read v).map modify)).map (· c)).getD c
    = put ((((o.get? f.key).bind f.read).map (· (part c))).getD (part c)) c
  cases o.get? f.key with
  | none => exact (hput c).symm
  | some value =>
      show (((f.read value).map modify).map (· c)).getD c
        = put (((f.read value).map (· (part c))).getD (part c)) c
      cases f.read value with
      | none => exact (hput c).symm
      | some set => exact hmodify set c

/-- The fields of a part of a configuration set that part and no other. -/
theorem foldl_setFrom_within (modify : (σ → σ) → τ → τ) (part : τ → σ) (put : σ → τ → τ)
    (hmodify : ∀ set c, modify set c = put (set (part c)) c) (hput : ∀ c, put (part c) c = c)
    (hpart : ∀ s c, part (put s c) = s) (hagain : ∀ s s' c, put s (put s' c) = put s c)
    (fields : List (Field σ)) (o : Options) (c : τ) :
    (fields.map (·.within modify)).foldl (fun c f => f.setFrom o c) c
      = put (fields.foldl (fun s f => f.setFrom o s) (part c)) c := by
  induction fields generalizing c with
  | nil => exact (hput c).symm
  | cons f rest ih =>
      rw [List.map_cons, List.foldl_cons, List.foldl_cons, setFrom_within f hmodify hput, ih,
        hpart, hagain]

end Field

-- ── Layers ─────────────────────────────────────────────────────────

namespace Layer

variable {σ : Type} {l : Layer σ} {o o' o₁ : Options} {c : σ}

/-- What a layer makes of a bag depends on its own keys alone. -/
theorem valueOver_congr (h : ∀ f ∈ l.fields, o'.get? f.key = o.get? f.key) (base : σ) :
    l.valueOver base o' = l.valueOver base o :=
  List.foldl_ext _ _ base (fun c f hf => Field.setFrom_congr (h f hf) c)

/-- **THREE OUTCOMES**: the first fault, the keys that are left, or the value. -/
theorem consumeOver_eq (hkeys : l.keys.Nodup) (base : σ) (o : Options) :
    l.consumeOver base o = match l.fault? o with
      | some fault => .error fault
      | none => (Options.ensureConsumed (o.without l.keys)).map (fun _ => l.valueOver base o) := by
  rw [consumeOver]
  cases h : l.fault? o with
  | some fault =>
      have htake := takeOver_of_fault hkeys h base
      generalize l.takeOver base o = taken at htake
      obtain ⟨result, rest⟩ := taken
      cases htake
      rfl
  | none => rw [takeOver_of_sound hkeys h]

/-- What a layer has consumed has no fault, no other key, and the value of the layer. -/
theorem consumeOver_eq_ok (hkeys : l.keys.Nodup) {base : σ} (h : l.consumeOver base o = .ok c) :
    l.fault? o = none ∧ (∀ q, (o.without l.keys).get? q = none) ∧ c = l.valueOver base o := by
  rw [consumeOver_eq hkeys] at h
  cases hfault : l.fault? o with
  | some fault =>
      rw [hfault] at h
      cases h
  | none =>
      rw [hfault] at h
      cases hrest : Options.ensureConsumed (o.without l.keys) with
      | error fault =>
          simp only [hrest] at h
          cases h
      | ok u =>
          simp only [hrest] at h
          exact ⟨rfl, Options.absent_of_ensureConsumed hrest, (Except.ok.inj h).symm⟩

/-- A bag in which a layer has no fault, and that has no other key, is consumed. -/
theorem consumeOver_of_sound (hkeys : l.keys.Nodup) (hfault : l.fault? o = none)
    (hrest : ∀ q, (o.without l.keys).get? q = none) (base : σ) :
    l.consumeOver base o = .ok (l.valueOver base o) := by
  have hempty : o.without l.keys = SortedMap.empty := SortedMap.ext_get? hrest
  rw [consumeOver_eq hkeys, hfault, hempty]
  rfl

/-- A new entry that the layer knows and admits changes the value, and neither the fault nor what is
    left. -/
theorem consumeOver_insert (hkeys : l.keys.Nodup) {key : String} {value : Value}
    (hkey : key ∈ l.keys) (habsent : o.get? key = none)
    (hadmits : ∀ f ∈ l.fields, f.key = key → f.admits value = true) {base : σ} {change : σ → σ}
    (hover : l.valueOver base (o.insert key value) = change (l.valueOver base o)) :
    l.consumeOver base (o.insert key value) = (l.consumeOver base o).map change := by
  rw [consumeOver_eq hkeys, consumeOver_eq hkeys, fault?_insert habsent hadmits,
    Options.without_insert_of_mem hkey, hover]
  cases l.fault? o with
  | some fault => rfl
  | none => cases Options.ensureConsumed (o.without l.keys) <;> rfl

/-- Whether setting the fields of a layer from one bag and then from another, in which they have no
    fault, is setting them from both bags at once. -/
def Overlays (l : Layer σ) : Prop :=
  ∀ base o₁ o₂, l.fault? o₂ = none →
    l.valueOver (l.valueOver base o₁) o₂ = l.valueOver base (o₁.insertMany o₂.entries)

/-- **LAYERING IS MERGING**: on top of a configuration that comes from a bag, a second bag comes to
    the same as both at once, value and faults alike. -/
theorem consumeOver_of_consume (hkeys : l.keys.Nodup) (hover : l.Overlays)
    (h : l.consume o₁ = .ok c) (o₂ : Options) :
    l.consumeOver c o₂ = l.consume (o₁.insertMany o₂.entries) := by
  obtain ⟨hsound, hrest, rfl⟩ := consumeOver_eq_ok hkeys h
  have hfault : l.fault? (o₁.insertMany o₂.entries) = l.fault? o₂ :=
    fault?_congr (fun f hf => Field.fault?_insertMany (fault?_eq_none_iff.mp hsound f hf) o₂)
  rw [consume, consumeOver_eq hkeys, consumeOver_eq hkeys, hfault,
    Options.without_insertMany hrest]
  cases hupper : l.fault? o₂ with
  | some fault => rfl
  | none =>
      simp only
      rw [hover l.defaults o₁ o₂ hupper]

end Layer
end GraphLink
