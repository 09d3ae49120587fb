import GraphLink.Proofs.Config.Settings
import Mathlib.Data.List.Flatten
import Mathlib.Data.List.Nodup
import Mathlib.Data.List.Perm.Basic

/-! # Chains of any layers

    The layers of a chain take from one bag, one after the other, so the second looks into what the
    first has left.  The session layer knows all that the workspace layer knows, and a chain may
    even name one layer twice.

    What carries the results is that a key has one rule, whichever layer reads it
    (`Setting.eq_of_key`).  So no layer can hide an inadmissible value from a later one: it is a
    fault where it is taken first (`takeChain_of_firstUnmet`).  And if there is no fault, the
    configurations are those of the layers' shares in the bag at the beginning
    (`getElem?_values`).  All that is said of chains in `consumeChain_shares_out` follows from these
    two. -/

namespace GraphLink

-- ── Bags ───────────────────────────────────────────────────────────

namespace Options

variable {o : Options} {keys : List String}

/-- The entries of some keys, and nothing else. -/
def only (o : Options) (keys : List String) : Options :=
  ⟨o.entries.filter (fun e => e.1 ∈ keys), o.ascending.filter _⟩

theorem get?_only (o : Options) (keys : List String) (q : String) :
    (o.only keys).get? q = if q ∈ keys then o.get? q else none :=
  lookup_filter_key (· ∈ keys) q o.entries

/-- Taking keys out in two goes is taking them out at once. -/
theorem without_append (o : Options) (xs ys : List String) :
    o.without (xs ++ ys) = (o.without xs).without ys :=
  List.foldl_append

/-- Nothing is left of a bag whose keys are all taken out. -/
theorem without_eq_empty (h : ∀ key ∈ o.keys, key ∈ keys) :
    o.without keys = SortedMap.empty := by
  refine SortedMap.ext_get? (fun q => SortedMap.get?_eq_none_iff.mpr ?_)
  intro hq
  obtain ⟨hmem, houtside⟩ := mem_keys_without.mp hq
  exact houtside (h q hmem)

end Options

-- ── One table for all layers ───────────────────────────────────────

namespace Setting

variable {s t : Setting} {o : Options} {keys : List String}

/-- Every setting that a layer has: those of a pool and those of a session, which include those of
    a workspace. -/
def all : List Setting :=
  PoolConfig.settings ++ SessionConfig.settings

/-- **A KEY HAS ONE RULE**, whichever layer reads it. -/
theorem eq_of_key (hs : s ∈ all) (ht : t ∈ all) (h : s.key = t.key) : s = t :=
  List.inj_on_of_nodup_map (by decide : (all.map key).Nodup) hs ht h

/-- What is taken out of a bag cannot be inadmissible any more. -/
theorem IsMetBy.without (h : s.IsMetBy o) (keys : List String) : s.IsMetBy (o.without keys) := by
  intro v hv
  rw [Options.get?_without] at hv
  split at hv
  · cases hv
  · exact h v hv

end Setting

/-- Whether a value is admissible for a key, that is, for the setting with that key. -/
def Value.AdmissibleFor (v : Value) (key : String) : Prop :=
  ∃ s ∈ Setting.all, s.key = key ∧ s.rule.Admits v

-- ── One layer ──────────────────────────────────────────────────────

namespace Layer

variable {σ : Type} {l : Layer σ} {settings : List Setting} {o : Options} {s : Setting} {v : Value}

/-- A layer whose settings are met takes its keys out, and makes its configuration of them. -/
theorem take_of_met (hkeys : l.keys.Nodup) (hfollows : l.Follows settings)
    (h : ∀ s ∈ settings, s.IsMetBy o) :
    l.take o = (.ok (l.valueOver l.defaults o), o.without l.keys) :=
  takeOver_of_sound hkeys (fault?_of_met hfollows h) l.defaults

/-- A layer names the first of its settings that is not met. -/
theorem take_of_firstUnmet (hkeys : l.keys.Nodup) (hfollows : l.Follows settings)
    (h : FirstUnmet o settings s v) :
    (l.take o).1 = .error (.inadmissible s.key (s.rule.expected v) v) :=
  takeOver_of_fault hkeys (fault?_of_firstUnmet hfollows h) l.defaults

/-- Consuming names it as well, whatever else is in the bag. -/
theorem consumeOver_of_firstUnmet (hkeys : l.keys.Nodup) (hfollows : l.Follows settings)
    (h : FirstUnmet o settings s v) (base : σ) :
    l.consumeOver base o = .error (.inadmissible s.key (s.rule.expected v) v) := by
  rw [consumeOver_eq hkeys, fault?_of_firstUnmet hfollows h]

/-- Where all settings are met, keys that are none of them are named, in order. -/
theorem consumeOver_of_foreign (hkeys : l.keys.Nodup) (hfollows : l.Follows settings)
    (h : ∀ s ∈ settings, s.IsMetBy o) {key : String} (hkey : key ∈ o.keys)
    (houtside : key ∉ l.keys) (base : σ) :
    l.consumeOver base o = .error (.unknown (SortedMap.keys (o.without l.keys))) := by
  have hleft : key ∈ SortedMap.keys (o.without l.keys) :=
    Options.mem_keys_without.mpr ⟨hkey, houtside⟩
  rw [consumeOver_eq hkeys, fault?_of_met hfollows h, Options.ensureConsumed_of_mem hleft]
  rfl

/-- A bag with nothing but settings that are met is consumed. -/
theorem consumeOver_of_met (hkeys : l.keys.Nodup) (hfollows : l.Follows settings)
    (h : ∀ s ∈ settings, s.IsMetBy o) (hinside : ∀ key ∈ o.keys, key ∈ l.keys) (base : σ) :
    l.consumeOver base o = .ok (l.valueOver base o) := by
  have hempty := Options.without_eq_empty hinside
  refine consumeOver_of_sound hkeys (fault?_of_met hfollows h) (fun q => ?_) base
  rw [hempty]
  rfl

end Layer

namespace LayerName

variable {name : LayerName} {names names' : List LayerName} {s : Setting} {v : Value}
  {o o' : Options} {configs configs' : List LayerConfig} {key : String}

/-- The settings of a layer. -/
def settings : LayerName → List Setting
  | .pool => PoolConfig.settings
  | .workspace => WorkspaceConfig.settings
  | .session => SessionConfig.settings

/-- What a layer makes of a bag in which its settings are met. -/
def value (name : LayerName) (o : Options) : LayerConfig :=
  match name with
  | .pool => .pool (PoolConfig.layer.valueOver PoolConfig.layer.defaults o)
  | .workspace => .workspace (WorkspaceConfig.layer.valueOver WorkspaceConfig.layer.defaults o)
  | .session => .session (SessionConfig.layer.valueOver SessionConfig.layer.defaults o)

/-- A name stands for a layer that follows the settings: what it does is what the layer does, with
    the configuration under that name. -/
structure StandsFor {σ : Type} (name : LayerName) (l : Layer σ) (wrap : σ → LayerConfig) :
    Prop where
  nodup : l.keys.Nodup
  follows : l.Follows name.settings
  keys : name.keys = l.keys
  take : ∀ o, name.take o = ((l.take o).1.map wrap, (l.take o).2)
  consume : ∀ o, name.consume o = (l.consume o).map wrap
  value : ∀ o, name.value o = wrap (l.valueOver l.defaults o)

/-- Every name stands for a layer. -/
theorem exists_standsFor (name : LayerName) :
    ∃ (σ : Type) (l : Layer σ) (wrap : σ → LayerConfig), name.StandsFor l wrap := by
  cases name with
  | pool =>
      exact ⟨_, PoolConfig.layer, .pool, PoolConfig.nodup_keys_layer, PoolConfig.follows_settings,
        rfl, fun _ => rfl, fun _ => rfl, fun _ => rfl⟩
  | workspace =>
      exact ⟨_, WorkspaceConfig.layer, .workspace, WorkspaceConfig.nodup_keys_layer,
        WorkspaceConfig.follows_settings, rfl, fun _ => rfl, fun _ => rfl, fun _ => rfl⟩
  | session =>
      exact ⟨_, SessionConfig.layer, .session, SessionConfig.nodup_keys_layer,
        SessionConfig.follows_settings, rfl, fun _ => rfl, fun _ => rfl, fun _ => rfl⟩

/-- The keys of a layer are those of its settings. -/
theorem mem_keys_iff : key ∈ name.keys ↔ ∃ s ∈ name.settings, s.key = key := by
  obtain ⟨σ, l, wrap, hlayer⟩ := name.exists_standsFor
  rw [hlayer.keys, Layer.keys_of_follows hlayer.follows, List.mem_map]

/-- The table has the settings of every layer. -/
theorem mem_all (h : s ∈ name.settings) : s ∈ Setting.all := by
  cases name with
  | pool => exact List.mem_append_left _ h
  | workspace => exact List.mem_append_right _ (List.mem_append_left _ h)
  | session => exact List.mem_append_right _ h

/-- So does the layer that a name stands for. -/
theorem take_of_met (h : ∀ s ∈ name.settings, s.IsMetBy o) :
    name.take o = (.ok (name.value o), o.without name.keys) := by
  obtain ⟨σ, l, wrap, hlayer⟩ := name.exists_standsFor
  rw [hlayer.take, Layer.take_of_met hlayer.nodup hlayer.follows h, hlayer.value, hlayer.keys]
  rfl

/-- The layer that a name stands for names the first of its settings that is not met. -/
theorem take_of_firstUnmet (h : FirstUnmet o name.settings s v) :
    (name.take o).1 = .error (.inadmissible s.key (s.rule.expected v) v) := by
  obtain ⟨σ, l, wrap, hlayer⟩ := name.exists_standsFor
  have htake := Layer.take_of_firstUnmet hlayer.nodup hlayer.follows h
  rw [hlayer.take]
  simp only [htake]
  rfl

/-- What a layer makes of a bag depends on its own keys alone. -/
theorem value_congr (h : ∀ key ∈ name.keys, o'.get? key = o.get? key) :
    name.value o' = name.value o := by
  obtain ⟨σ, l, wrap, hlayer⟩ := name.exists_standsFor
  have hfields : ∀ f ∈ l.fields, o'.get? f.key = o.get? f.key := by
    intro f hf
    refine h f.key ?_
    rw [hlayer.keys]
    exact List.mem_map_of_mem hf
  rw [hlayer.value, hlayer.value, Layer.valueOver_congr hfields]

/-- A layer that is consumed alone makes of the bag what it makes of its keys. -/
theorem consume_of_met (h : ∀ s ∈ name.settings, s.IsMetBy o)
    (hinside : ∀ key ∈ o.keys, key ∈ name.keys) : name.consume o = .ok (name.value o) := by
  obtain ⟨σ, l, wrap, hlayer⟩ := name.exists_standsFor
  rw [hlayer.keys] at hinside
  rw [hlayer.consume, Layer.consume, Layer.consumeOver_of_met hlayer.nodup hlayer.follows h hinside,
    hlayer.value]
  rfl

-- ── Chains ─────────────────────────────────────────────────────────

/-- Whether the bag has an admissible value, or none, for every setting of every layer. -/
def AllMet (names : List LayerName) (o : Options) : Prop :=
  ∀ name ∈ names, ∀ s ∈ name.settings, s.IsMetBy o

/-- What the layers of a chain make of a bag: each of what the ones before have left. -/
def values : List LayerName → Options → List LayerConfig
  | [], _ => []
  | name :: rest, o => name.value o :: values rest (o.without name.keys)

/-- A chain whose settings are met takes out the keys of all its layers. -/
theorem takeChain_of_met (h : AllMet names o) :
    takeChain names o = (.ok (values names o), o.without (names.flatMap keys)) := by
  induction names generalizing o with
  | nil => rfl
  | cons name rest ih =>
      obtain ⟨hfirst, hrest⟩ := List.forall_mem_cons.mp h
      have hleft : AllMet rest (o.without name.keys) := by
        intro later hlater s hs
        exact (hrest later hlater s hs).without name.keys
      rw [takeChain, take_of_met hfirst]
      simp only
      rw [ih hleft, List.flatMap_cons, Options.without_append]
      rfl

/-- A layer that finds its settings met takes no fault away from the layers behind it. -/
theorem firstUnmet_without {settings : List Setting} (hmet : ∀ s ∈ name.settings, s.IsMetBy o)
    (hall : ∀ s ∈ settings, s ∈ Setting.all) (h : FirstUnmet o settings s v) :
    FirstUnmet (o.without name.keys) settings s v := by
  induction h with
  | here hvalue hrule =>
      rename_i s rest v
      refine .here ?_ hrule
      rw [Options.get?_without, if_neg, hvalue]
      -- The layer would have a setting with that key, and it would be the same setting.
      intro hkey
      obtain ⟨t, ht, heq⟩ := mem_keys_iff.mp hkey
      have hsame : t = s := Setting.eq_of_key (mem_all ht) (hall s List.mem_cons_self) heq
      exact hrule (hmet s (hsame ▸ ht) v hvalue)
  | later hfirst _ ih =>
      exact .later (hfirst.without name.keys) (ih (fun s hs => hall s (List.mem_cons_of_mem _ hs)))

/-- **NO LAYER HIDES A FAULT**: the first setting of the chain that is not met is named. -/
theorem takeChain_of_firstUnmet (h : FirstUnmet o (names.flatMap settings) s v) :
    (takeChain names o).1 = .error (.inadmissible s.key (s.rule.expected v) v) := by
  induction names generalizing o with
  | nil => cases h
  | cons name rest ih =>
      rw [List.flatMap_cons] at h
      rcases h.of_append with hfirst | ⟨hmet, hlater⟩
      · have htake := take_of_firstUnmet hfirst
        rw [takeChain]
        generalize name.take o = taken at htake ⊢
        obtain ⟨result, left⟩ := taken
        cases htake
        rfl
      · have hall : ∀ t ∈ rest.flatMap settings, t ∈ Setting.all := by
          intro t ht
          obtain ⟨later, -, hlater⟩ := List.mem_flatMap.mp ht
          exact mem_all hlater
        have hrest := ih (firstUnmet_without hmet hall hlater)
        rw [takeChain, take_of_met hmet]
        simp only
        rw [hrest]
        rfl

/-- Then it is up to what is left whether the bag is accepted. -/
theorem consumeChain_of_met (h : AllMet names o) :
    consumeChain names o
      = (Options.ensureConsumed (o.without (names.flatMap keys))).map
          (fun _ => values names o) := by
  rw [consumeChain, takeChain_of_met h]

/-- Consuming a chain names the first of its settings that is not met. -/
theorem consumeChain_of_firstUnmet (h : FirstUnmet o (names.flatMap settings) s v) :
    consumeChain names o = .error (.inadmissible s.key (s.rule.expected v) v) := by
  have htake := takeChain_of_firstUnmet h
  rw [consumeChain]
  generalize takeChain names o = taken at htake ⊢
  obtain ⟨result, left⟩ := taken
  cases htake
  rfl

-- ── What a chain accepts ───────────────────────────────────────────

/-- Whether a layer of a chain has a key. -/
def Recognises (names : List LayerName) (key : String) : Prop :=
  ∃ name ∈ names, key ∈ name.keys

theorem recognises_iff : Recognises names key ↔ key ∈ names.flatMap keys :=
  List.mem_flatMap.symm

/-- The order of the layers makes no difference to the keys that are recognised. -/
theorem recognises_of_perm (h : names.Perm names') :
    Recognises names key ↔ Recognises names' key := by
  rw [recognises_iff, recognises_iff]
  exact (h.flatMap_right keys).mem_iff

/-- The settings of a chain are met if every value whose key is recognised is admissible. -/
theorem allMet_iff : AllMet names o
    ↔ ∀ key v, o.get? key = some v → Recognises names key → v.AdmissibleFor key := by
  constructor
  · rintro h key v hvalue ⟨name, hname, hkey⟩
    obtain ⟨s, hs, rfl⟩ := mem_keys_iff.mp hkey
    exact ⟨s, mem_all hs, rfl, h name hname s hs v hvalue⟩
  · intro h name hname s hs v hvalue
    obtain ⟨t, ht, heq, hadmits⟩ := h s.key v hvalue ⟨name, hname, mem_keys_iff.mpr ⟨s, hs, rfl⟩⟩
    have hsame : t = s := Setting.eq_of_key ht (mem_all hs) heq
    exact hsame ▸ hadmits

/-- A chain accepts no bag with an inadmissible value. -/
theorem allMet_of_ok (h : consumeChain names o = .ok configs) : AllMet names o := by
  rcases exists_firstUnmet_or_met o (names.flatMap settings) with ⟨s, v, hunmet⟩ | hmet
  · rw [consumeChain_of_firstUnmet hunmet] at h
    cases h
  · intro name hname s hs
    exact hmet s (List.mem_flatMap.mpr ⟨name, hname, hs⟩)

/-- A chain accepts a bag exactly if its settings are met and its keys are recognised, and then with
    the values of its layers. -/
theorem consumeChain_eq_ok_iff : consumeChain names o = .ok configs
    ↔ AllMet names o ∧ (∀ key ∈ o.keys, Recognises names key) ∧ configs = values names o := by
  constructor
  · intro h
    have hmet := allMet_of_ok h
    rw [consumeChain_of_met hmet] at h
    cases hleft : Options.ensureConsumed (o.without (names.flatMap keys)) with
    | error fault =>
        rw [hleft] at h
        cases h
    | ok u =>
        rw [hleft] at h
        cases h
        refine ⟨hmet, fun key hkey => ?_, rfl⟩
        by_contra houtside
        have habsent := Options.absent_of_ensureConsumed hleft key
        have hmem : key ∉ names.flatMap keys := fun hmem => houtside (recognises_iff.mpr hmem)
        rw [Options.get?_without, if_neg hmem] at habsent
        exact SortedMap.get?_eq_none_iff.mp habsent hkey
  · rintro ⟨hmet, hinside, rfl⟩
    have hempty : o.without (names.flatMap keys) = SortedMap.empty :=
      Options.without_eq_empty (fun key hkey => recognises_iff.mp (hinside key hkey))
    rw [consumeChain_of_met hmet, hempty]
    rfl

/-- **WHAT A CHAIN ACCEPTS**: recognised keys with admissible values, and nothing else. -/
theorem exists_consumeChain_iff : (∃ configs, consumeChain names o = .ok configs)
    ↔ ∀ key v, o.get? key = some v → Recognises names key ∧ v.AdmissibleFor key := by
  simp only [consumeChain_eq_ok_iff, allMet_iff, SortedMap.mem_keys_iff]
  constructor
  · rintro ⟨configs, hadmissible, hinside, -⟩ key v hvalue
    have hkey := hinside key ⟨v, hvalue⟩
    exact ⟨hkey, hadmissible key v hvalue hkey⟩
  · intro h
    refine ⟨values names o, fun key v hvalue _ => (h key v hvalue).2, ?_, rfl⟩
    rintro key ⟨v, hvalue⟩
    exact (h key v hvalue).1

-- ── What each layer gets ───────────────────────────────────────────

/-- There is one configuration for every layer. -/
theorem length_values (names : List LayerName) (o : Options) :
    (values names o).length = names.length := by
  induction names generalizing o with
  | nil => rfl
  | cons name rest ih => rw [values, List.length_cons, List.length_cons, ih]

/-- The configuration at a place of the chain is what its layer makes of the bag without the keys
    of the layers before. -/
theorem getElem?_values (names : List LayerName) (o : Options) (i : Nat) :
    (values names o)[i]?
      = names[i]?.map (fun name => name.value (o.without ((names.take i).flatMap keys))) := by
  induction names generalizing o i with
  | nil => rfl
  | cons name rest ih =>
      cases i with
      | zero => rfl
      | succ i =>
          rw [values, List.getElem?_cons_succ, List.getElem?_cons_succ, ih, List.take_succ_cons,
            List.flatMap_cons, Options.without_append]

/-- **A LAYER GETS ITS SHARE**: consumed alone, its own keys less the keys of the layers before give
    what the layer makes of the bag at its place. -/
theorem consume_share (h : ∀ s ∈ name.settings, s.IsMetBy o) (before : List String) :
    name.consume ((o.only name.keys).without before) = .ok (name.value (o.without before)) := by
  have hlookup (q : String) : ((o.only name.keys).without before).get? q
      = if q ∈ name.keys then (o.without before).get? q else none := by
    rw [Options.get?_without, Options.get?_without, Options.get?_only]
    by_cases hq : q ∈ before
    · rw [if_pos hq, if_pos hq, ite_self]
    · rw [if_neg hq, if_neg hq]
  have hinside : ∀ key ∈ ((o.only name.keys).without before).keys, key ∈ name.keys := by
    intro key hkey
    obtain ⟨v, hvalue⟩ := SortedMap.mem_keys_iff.mp hkey
    rw [hlookup] at hvalue
    by_contra houtside
    rw [if_neg houtside] at hvalue
    cases hvalue
  have hmet : ∀ s ∈ name.settings, s.IsMetBy ((o.only name.keys).without before) := by
    intro s hs v hvalue
    rw [hlookup, if_pos (mem_keys_iff.mpr ⟨s, hs, rfl⟩)] at hvalue
    exact (h s hs).without before v hvalue
  rw [consume_of_met hmet hinside]
  refine congrArg Except.ok (value_congr (fun key hkey => ?_))
  rw [hlookup, if_pos hkey]

/-- Layers without common keys do not see of each other. -/
theorem values_of_disjoint (h : names.Pairwise (fun a b => a.keys.Disjoint b.keys)) (o : Options) :
    values names o = names.map (fun name => name.value o) := by
  induction names generalizing o with
  | nil => rfl
  | cons name rest ih =>
      obtain ⟨hfirst, hrest⟩ := List.pairwise_cons.mp h
      rw [values, ih hrest, List.map_cons]
      refine congrArg (name.value o :: ·) (List.map_congr_left (fun later hlater => ?_))
      refine value_congr (fun key hkey => ?_)
      rw [Options.get?_without, if_neg (fun hmem => hfirst later hlater hmem hkey)]

/-- Where all settings are met, keys that no layer has are named, in order. -/
theorem consumeChain_of_unrecognised (hmet : AllMet names o) (hkey : key ∈ o.keys)
    (houtside : ¬ Recognises names key) :
    consumeChain names o
      = .error (.unknown (SortedMap.keys (o.without (names.flatMap keys)))) := by
  have hleft : key ∈ SortedMap.keys (o.without (names.flatMap keys)) :=
    Options.mem_keys_without.mpr ⟨hkey, fun hmem => houtside (recognises_iff.mpr hmem)⟩
  rw [consumeChain_of_met hmet, Options.ensureConsumed_of_mem hleft]
  rfl

/-- The order of the layers makes no difference to what they leave. -/
theorem without_of_perm (h : names.Perm names') (o : Options) :
    o.without (names.flatMap keys) = o.without (names'.flatMap keys) := by
  refine SortedMap.ext_get? (fun q => ?_)
  rw [Options.get?_without, Options.get?_without]
  exact if_congr (recognises_iff.symm.trans ((recognises_of_perm h).trans recognises_iff)) rfl rfl

/-- **A CHAIN SHARES OUT A BAG.**  It accepts a bag exactly if every key is recognised by one of its
    layers and every value is admissible for its key.  Then each configuration is what its layer
    alone makes of the entries for its keys that no layer before has.  So the order of the layers
    does not matter for which bags are accepted, nor for which keys are called unknown, nor, if the
    layers have no common key, for the configurations. -/
theorem consumeChain_shares_out (names : List LayerName) (o : Options) :
    ((∃ configs, consumeChain names o = .ok configs)
        ↔ ∀ key v, o.get? key = some v → Recognises names key ∧ v.AdmissibleFor key)
      ∧ (∀ configs, consumeChain names o = .ok configs →
          configs.length = names.length
            ∧ ∀ (i : Nat) (name : LayerName) (config : LayerConfig),
                names[i]? = some name → configs[i]? = some config →
                name.consume ((o.only name.keys).without ((names.take i).flatMap keys))
                  = .ok config)
      ∧ ∀ names', names.Perm names' →
          ((∃ configs, consumeChain names o = .ok configs)
              ↔ ∃ configs, consumeChain names' o = .ok configs)
            ∧ ((∀ key v, o.get? key = some v → Recognises names key → v.AdmissibleFor key) →
                (∃ key ∈ o.keys, ¬ Recognises names key) →
                ∃ keys, consumeChain names o = .error (.unknown keys)
                  ∧ consumeChain names' o = .error (.unknown keys)
                  ∧ keys.Pairwise (· < ·)
                  ∧ ∀ key, key ∈ keys ↔ key ∈ o.keys ∧ ¬ Recognises names key)
            ∧ (names.Pairwise (fun a b => a.keys.Disjoint b.keys) →
                ∀ configs configs', consumeChain names o = .ok configs →
                  consumeChain names' o = .ok configs' →
                  (names.zip configs).Perm (names'.zip configs')) := by
  refine ⟨exists_consumeChain_iff, ?_, ?_⟩
  · intro configs h
    obtain ⟨hmet, -, rfl⟩ := consumeChain_eq_ok_iff.mp h
    refine ⟨length_values names o, ?_⟩
    intro i name config hname hconfig
    rw [getElem?_values, hname] at hconfig
    cases hconfig
    exact consume_share (hmet name (List.mem_of_getElem? hname)) _
  · intro names' hperm
    refine ⟨?_, ?_, ?_⟩
    -- Neither condition asks for the order of the layers.
    · rw [exists_consumeChain_iff, exists_consumeChain_iff]
      simp only [recognises_of_perm hperm]
    · rintro hadmissible ⟨key, hkey, houtside⟩
      have hmet : AllMet names o := allMet_iff.mpr hadmissible
      have hmet' : AllMet names' o := fun name hname => hmet name (hperm.mem_iff.mpr hname)
      have houtside' : ¬ Recognises names' key :=
        fun h => houtside ((recognises_of_perm hperm).mpr h)
      -- Both chains take out the same keys, so they are left with the same ones.
      refine ⟨_, consumeChain_of_unrecognised hmet hkey houtside, ?_, SortedMap.pairwise_keys _, ?_⟩
      · rw [consumeChain_of_unrecognised hmet' hkey houtside', without_of_perm hperm]
      · intro q
        rw [recognises_iff]
        exact Options.mem_keys_without
    · intro hdisjoint configs configs' h h'
      have hdisjoint' : names'.Pairwise (fun a b => a.keys.Disjoint b.keys) :=
        (hperm.pairwise_iff List.disjoint_symm).mp hdisjoint
      -- With disjoint keys a layer's configuration does not depend on its place in the chain.
      obtain ⟨-, -, rfl⟩ := consumeChain_eq_ok_iff.mp h
      obtain ⟨-, -, rfl⟩ := consumeChain_eq_ok_iff.mp h'
      rw [values_of_disjoint hdisjoint, values_of_disjoint hdisjoint', ← List.map_prod_left_eq_zip,
        ← List.map_prod_left_eq_zip]
      exact hperm.map _

/-- A session behind its workspace is left with its defaults. -/
example : consumeChain [.workspace, .session] (SortedMap.ofList [("fetch_size", .int 1)])
    = .ok [.workspace { fetchSize := 1 }, .session {}] := by
  rfl

end LayerName
end GraphLink
