import GraphLink.Options.Layer
import GraphLink.Proofs.SortedMap

/-! # What taking a layer comes to

    Taking goes through the fields of a layer one by one, and every field looks into the bag that
    the fields before have left.  As long as no two fields share a key this makes no difference:
    what a layer takes can be read off look-ups in the bag at the beginning.

    So a layer has a fault in a bag (`Layer.fault?`) or a value (`Layer.valueOver`), and taking it
    ends in the one or the other (`takeOver_of_fault`, `takeOver_of_sound`).  Bags in which the
    keys of the layer have the same entries give the same. -/

namespace GraphLink

-- ── Bags ───────────────────────────────────────────────────────────

namespace Options

variable {α : Type} {o : Options} {key : String} {keys : List String}

/-- The bag without the entries of some keys. -/
def without (o : Options) (keys : List String) : Options :=
  keys.foldl SortedMap.erase o

/-- Taking keys out of a bag keeps the other entries as they are, in their order. -/
theorem entries_without (o : Options) (keys : List String) :
    (o.without keys).entries = o.entries.filter (fun e => e.1 ∉ keys) := by
  induction keys generalizing o with
  | nil => exact (List.filter_eq_self.mpr (fun e _ => decide_eq_true List.not_mem_nil)).symm
  | cons k keys ih =>
      show (without (o.erase k) keys).entries = _
      rw [ih]
      show (o.entries.filter (fun e => e.1 ≠ k)).filter (fun e => e.1 ∉ keys) = _
      rw [List.filter_filter]
      refine List.filter_congr (fun e _ => ?_)
      rw [← Bool.decide_and]
      refine decide_eq_decide.mpr ?_
      rw [List.mem_cons, not_or]
      exact and_comm

/-- Taking keys out takes away what they had, and nothing else. -/
theorem get?_without (o : Options) (keys : List String) (q : String) :
    (o.without keys).get? q = if q ∈ keys then none else o.get? q := by
  rw [SortedMap.get?, entries_without, lookup_filter_key (· ∉ keys), ite_not]
  rfl

/-- An entry that is taken out makes no difference to what is left. -/
theorem without_insert_of_mem (h : key ∈ keys) (value : Value) :
    without (o.insert key value) keys = o.without keys := by
  refine SortedMap.ext_get? (fun q => ?_)
  rw [get?_without, get?_without]
  by_cases hq : q ∈ keys
  · rw [if_pos hq, if_pos hq]
  · rw [if_neg hq, if_neg hq]
    refine SortedMap.get?_insert_of_ne o ?_ value
    rintro rfl
    exact hq h

/-- The value of a key as `convert` reads it; `default` if there is none that it can read. -/
def valueOr (o : Options) (key : String) (convert : Value → Option α) (default : α) : α :=
  ((o.get? key).bind convert).getD default

/-- An entry decides for its own key, and leaves the others as they are. -/
theorem valueOr_insert (o : Options) (k key : String) (value : Value)
    (convert : Value → Option α) (default : α) :
    valueOr (o.insert k value) key convert default
      = if key = k then (convert value).getD default else o.valueOr key convert default := by
  rw [valueOr, SortedMap.get?_insert]
  by_cases h : key = k
  · rw [if_pos h, if_pos h]
    rfl
  · rw [if_neg h, if_neg h]
    rfl

/-- Without an entry the default stands. -/
theorem valueOr_of_absent (h : o.get? key = none) (convert : Value → Option α) (default : α) :
    o.valueOr key convert default = default := by
  rw [valueOr, h]
  rfl

end Options

-- ── Fields ─────────────────────────────────────────────────────────

namespace Field

variable {σ α : Type} {f : Field σ} {fields before after : List (Field σ)} {o o' : Options}
  {fault : Options.Fault}

/-- The fault of the value that a bag has for the field, unless the field admits it. -/
def fault? (f : Field σ) (o : Options) : Option Options.Fault :=
  (o.get? f.key).bind (fun value =>
    if f.admits value then none else some (.inadmissible f.key (f.expected value) value))

/-- The configuration with the value that a bag has for the field, if the field admits it. -/
def setFrom (f : Field σ) (o : Options) (config : σ) : σ :=
  (((o.get? f.key).bind f.read).map (· config)).getD config

/-- Whether a field has a fault depends on its own key alone. -/
theorem fault?_congr (h : o'.get? f.key = o.get? f.key) : f.fault? o' = f.fault? o := by
  rw [fault?, fault?, h]

/-- What a field sets depends on its own key alone. -/
theorem setFrom_congr (h : o'.get? f.key = o.get? f.key) (config : σ) :
    f.setFrom o' config = f.setFrom o config := by
  rw [setFrom, setFrom, h]

/-- A field that converts values and sets them as one part of the configuration. -/
theorem setFrom_of_read (part : σ → α) {convert : Value → Option α} {set : α → σ → σ}
    (hread : ∀ value, f.read value = (convert value).map set) (hset : ∀ c, set (part c) c = c)
    (o : Options) (c : σ) : f.setFrom o c = set (o.valueOr f.key convert (part c)) c := by
  rw [setFrom, Options.valueOr]
  cases o.get? f.key with
  | none => exact (hset c).symm
  | some value =>
      show ((f.read value).map (· c)).getD c = set ((convert value).getD (part c)) c
      rw [hread]
      cases convert value with
      | none => exact (hset c).symm
      | some a => rfl

/-- A field that is read sets its part to the value, or leaves it. -/
theorem setFrom_of (key : String) (part : σ → α) {expected : String}
    {convert : Value → Option α} {set : α → σ → σ} (hset : ∀ c, set (part c) c = c)
    (o : Options) (c : σ) :
    (of key expected convert set).setFrom o c = set (o.valueOr key convert (part c)) c :=
  setFrom_of_read part (fun _ => rfl) hset o c

/-- Converting in two steps is converting, then setting what comes of it. -/
theorem of_map {β : Type} (key expected : String) (convert : Value → Option α) (g : α → β)
    (set : β → σ → σ) :
    of key expected convert (fun a => set (g a))
      = of key expected (fun v => (convert v).map g) set := by
  simp only [of, Option.map_map]
  rfl

/-- Without a fault a field takes its entry out and sets its part. -/
theorem take_of_sound (h : f.fault? o = none) (config : σ) :
    f.take config o = (.ok (f.setFrom o config), o.erase f.key) := by
  rw [take, setFrom]
  cases hvalue : o.get? f.key with
  | none =>
      rw [SortedMap.erase_of_absent hvalue]
      rfl
  | some value =>
      rw [fault?, hvalue, Option.bind_some, admits] at h
      cases hread : f.read value with
      | none =>
          rw [hread] at h
          exact nomatch h
      | some set =>
          rw [Option.bind_some]
          simp only [hread]
          rfl

/-- A fault is reported, and the entry is taken out all the same. -/
theorem take_of_fault (h : f.fault? o = some fault) (config : σ) :
    f.take config o = (.error fault, o.erase f.key) := by
  rw [take]
  cases hvalue : o.get? f.key with
  | none =>
      rw [fault?, hvalue] at h
      exact nomatch h
  | some value =>
      rw [fault?, hvalue, Option.bind_some, admits] at h
      cases hread : f.read value with
      | some set =>
          rw [hread] at h
          exact nomatch h
      | none =>
          rw [hread] at h
          cases h
          simp only [hread]

/-- Without a fault, everything is set and all keys are taken out. -/
theorem takeAll_of_sound (hkeys : (fields.map key).Nodup)
    (h : ∀ f ∈ fields, f.fault? o = none) (config : σ) :
    takeAll fields config o
      = (.ok (fields.foldl (fun c f => f.setFrom o c) config), o.without (fields.map key)) := by
  induction fields generalizing o config with
  | nil => rfl
  | cons f rest ih =>
      obtain ⟨hfresh, hrest⟩ := List.nodup_cons.mp hkeys
      have hframe : ∀ g ∈ rest, (o.erase f.key).get? g.key = o.get? g.key := by
        intro g hg
        refine o.get?_erase_of_ne ?_
        intro heq
        exact hfresh (heq ▸ List.mem_map_of_mem hg)
      rw [takeAll, take_of_sound (h f List.mem_cons_self)]
      show takeAll rest (f.setFrom o config) (o.erase f.key) = _
      have hsound : ∀ g ∈ rest, g.fault? (o.erase f.key) = none := fun g hg =>
        (fault?_congr (hframe g hg)).trans (h g (List.mem_cons_of_mem f hg))
      rw [ih hrest hsound, List.foldl_ext _ (fun c g => g.setFrom o c) _
        (fun c g hg => setFrom_congr (hframe g hg) c)]
      rfl

/-- The first fault ends the taking; the keys up to it are taken out. -/
theorem takeAll_of_fault (hkeys : ((before ++ f :: after).map key).Nodup)
    (h : ∀ g ∈ before, g.fault? o = none) (hfault : f.fault? o = some fault) (config : σ) :
    takeAll (before ++ f :: after) config o
      = (.error fault, o.without ((before ++ [f]).map key)) := by
  induction before generalizing o config with
  | nil =>
      show takeAll (f :: after) config o = _
      rw [takeAll, take_of_fault hfault]
      rfl
  | cons g rest ih =>
      obtain ⟨hfresh, hrest⟩ := List.nodup_cons.mp hkeys
      have hframe : ∀ k ∈ rest ++ f :: after, (o.erase g.key).get? k.key = o.get? k.key := by
        intro k hk
        refine o.get?_erase_of_ne ?_
        intro heq
        exact hfresh (heq ▸ List.mem_map_of_mem hk)
      have hf : f ∈ rest ++ f :: after := List.mem_append_right rest List.mem_cons_self
      show takeAll (g :: (rest ++ f :: after)) config o = _
      rw [takeAll, take_of_sound (h g List.mem_cons_self)]
      refine ih hrest ?_ ((fault?_congr (hframe f hf)).trans hfault) (g.setFrom o config)
      intro k hk
      refine (fault?_congr (hframe k ?_)).trans (h k (List.mem_cons_of_mem g hk))
      exact List.mem_append_left _ hk

end Field

-- ── Layers ─────────────────────────────────────────────────────────

namespace Layer

variable {σ : Type} {l : Layer σ} {o o' : Options} {fault : Options.Fault}

/-- The fault of the first field that has one. -/
def fault? (l : Layer σ) (o : Options) : Option Options.Fault :=
  l.fields.findSome? (·.fault? o)

/-- The configuration that a bag makes of a base: every field is set if it is given. -/
def valueOver (l : Layer σ) (base : σ) (o : Options) : σ :=
  l.fields.foldl (fun c f => f.setFrom o c) base

/-- A layer has no fault exactly if none of its fields has one. -/
theorem fault?_eq_none_iff : l.fault? o = none ↔ ∀ f ∈ l.fields, f.fault? o = none :=
  List.findSome?_eq_none_iff

/-- Whether a layer has a fault depends on its own keys alone. -/
theorem fault?_congr (h : ∀ f ∈ l.fields, f.fault? o' = f.fault? o) :
    l.fault? o' = l.fault? o := by
  rw [fault?, fault?]
  generalize l.fields = fields at h
  induction fields with
  | nil => rfl
  | cons f rest ih =>
      rw [List.findSome?_cons, List.findSome?_cons, h f List.mem_cons_self,
        ih (fun g hg => h g (List.mem_cons_of_mem f hg))]

/-- Without a fault a layer takes its keys out and sets its parts. -/
theorem takeOver_of_sound (hkeys : l.keys.Nodup) (h : l.fault? o = none) (base : σ) :
    l.takeOver base o = (.ok (l.valueOver base o), o.without l.keys) :=
  Field.takeAll_of_sound hkeys (fault?_eq_none_iff.mp h) base

/-- A fault of a layer is reported. -/
theorem takeOver_of_fault (hkeys : l.keys.Nodup) (h : l.fault? o = some fault) (base : σ) :
    (l.takeOver base o).1 = .error fault := by
  obtain ⟨before, f, after, hfields, hfault, hsound⟩ := List.findSome?_eq_some_iff.mp h
  rw [keys, hfields] at hkeys
  rw [takeOver, hfields, Field.takeAll_of_fault hkeys hsound hfault]

/-- A new entry that is admissible is no fault. -/
theorem fault?_insert {key : String} {value : Value} (habsent : o.get? key = none)
    (hadmits : ∀ f ∈ l.fields, f.key = key → f.admits value = true) :
    l.fault? (o.insert key value) = l.fault? o := by
  refine fault?_congr ?_
  intro f hf
  by_cases heq : f.key = key
  · rw [Field.fault?, Field.fault?, heq, habsent, SortedMap.get?_insert_self, Option.bind_some,
      if_pos (hadmits f hf heq)]
    rfl
  · exact Field.fault?_congr (SortedMap.get?_insert_of_ne o heq value)

end Layer
end GraphLink
