import GraphLink.Proofs.Config.Chains

/-! # What is left of a bag

    Each setting that is taken goes out of the bag, whether its value is admissible or not.  So a
    layer that is taken to its end leaves the entries that are none of its own; and a layer that
    stops at a setting leaves those, and the entries of the settings behind that one.  Nothing else
    is touched (`TakesOut`, `LayerName.take_leaves_rest`).

    Taking goes by the fields of a layer, and what is said here goes by its table of settings.  The
    fields split where the table does (`Layer.Follows.exists_split`), so the fields before the
    offending one are taken as a layer of their own would be. -/

namespace GraphLink

variable {σ τ : Type} {settings before after : List Setting} {o : Options} {s : Setting} {v : Value}

/-- The settings in front of the first that is not met are met. -/
theorem FirstUnmet.exists_split (h : FirstUnmet o settings s v) :
    ∃ before after, settings = before ++ s :: after ∧ (∀ t ∈ before, t.IsMetBy o)
      ∧ o.get? s.key = some v ∧ ¬ s.rule.Admits v := by
  induction h with
  | here hvalue hrule => exact ⟨[], _, rfl, List.forall_mem_nil _, hvalue, hrule⟩
  | later hmet _ ih =>
      obtain ⟨before, after, hsettings, hbefore, hvalue, hrule⟩ := ih
      refine ⟨_ :: before, after, ?_, List.forall_mem_cons.mpr ⟨hmet, hbefore⟩, hvalue, hrule⟩
      rw [hsettings]
      rfl

/-- How taking settings out of a bag ends, and what it leaves of the bag. -/
inductive TakesOut (settings : List Setting) (o : Options) :
    Except Options.Fault σ × Options → Prop where
  /-- Every setting is met, and the entries of all of them are gone. -/
  | all {config : σ} {rest : Options} (hmet : ∀ s ∈ settings, s.IsMetBy o)
      (hrest : rest.entries = o.entries.filter (fun e => e.1 ∉ settings.map Setting.key)) :
      TakesOut settings o (.ok config, rest)
  /-- A setting is the first that is not met and is named.  The entries up to it are gone, its own
      among them, and the settings behind it still have theirs. -/
  | upTo {before after : List Setting} {s : Setting} {v : Value} {fault : Options.Fault}
      {rest : Options} (hsettings : settings = before ++ s :: after)
      (hmet : ∀ t ∈ before, t.IsMetBy o) (hvalue : o.get? s.key = some v)
      (hrule : ¬ s.rule.Admits v)
      (hfault : fault.toError = .configuration ("Config option '" ++ s.key ++ "' expects "
        ++ s.rule.expected v ++ ", got " ++ v.text))
      (hrest : rest.entries
        = o.entries.filter (fun e => e.1 ∉ (before ++ [s]).map Setting.key))
      (hlater : ∀ t ∈ after, rest.get? t.key = o.get? t.key) :
      TakesOut settings o (.error fault, rest)

/-- What a configuration is wrapped in makes no difference. -/
theorem TakesOut.map {taken : Except Options.Fault σ × Options} (h : TakesOut settings o taken)
    (wrap : σ → τ) : TakesOut settings o (taken.1.map wrap, taken.2) := by
  cases h with
  | all hmet hrest => exact .all hmet hrest
  | upTo hsettings hmet hvalue hrule hfault hrest hlater =>
      exact .upTo hsettings hmet hvalue hrule hfault hrest hlater

namespace Layer

variable {l : Layer σ}

/-- The fields of a layer split where its settings do. -/
theorem Follows.exists_split (h : l.Follows (before ++ s :: after)) :
    ∃ front f back, l.fields = front ++ f :: back
      ∧ (⟨front, l.defaults⟩ : Layer σ).Follows before ∧ f.Follows s := by
  have hfront := List.forall₂_take_append l.fields before (s :: after) h
  have hback := List.forall₂_drop_append l.fields before (s :: after) h
  obtain ⟨f, back, hf, -, hdrop⟩ := List.forall₂_cons_right_iff.mp hback
  refine ⟨l.fields.take before.length, f, back, ?_, hfront, hf⟩
  rw [← hdrop, List.take_append_drop]

/-- **A SETTING THAT IS NOT MET ENDS THE TAKING**, and its entry is the last that is taken out. -/
theorem takeOver_of_unmet (hkeys : l.keys.Nodup) (hfollows : l.Follows (before ++ s :: after))
    (hmet : ∀ t ∈ before, t.IsMetBy o) (hvalue : o.get? s.key = some v)
    (hrule : ¬ s.rule.Admits v) (base : σ) :
    l.takeOver base o = (.error (.inadmissible s.key (s.rule.expected v) v),
      o.without ((before ++ [s]).map Setting.key)) := by
  obtain ⟨front, f, back, hfields, hfront, hf⟩ := hfollows.exists_split
  have hsound := fault?_eq_none_iff.mp (fault?_of_met hfront hmet)
  have htaken : (front ++ [f]).map Field.key = (before ++ [s]).map Setting.key := by
    have hnames : front.map Field.key = before.map Setting.key := keys_of_follows hfront
    rw [List.map_append, List.map_append, hnames, List.map_singleton, List.map_singleton, hf.key]
  rw [keys, hfields] at hkeys
  rw [takeOver, hfields,
    Field.takeAll_of_fault hkeys hsound (Field.fault?_of_unmet hf hvalue hrule), htaken]

/-- **WHAT A LAYER TAKES OUT** are the entries of its settings, up to the first that is not met. -/
theorem takesOut_takeOver (hkeys : l.keys.Nodup) (hfollows : l.Follows settings) (base : σ)
    (o : Options) : TakesOut settings o (l.takeOver base o) := by
  rcases exists_firstUnmet_or_met o settings with ⟨s, v, hfirst⟩ | hmet
  · obtain ⟨before, after, rfl, hbefore, hvalue, hrule⟩ := hfirst.exists_split
    have hnodup : ((before ++ [s]) ++ after).map Setting.key |>.Nodup := by
      rw [List.append_assoc, List.singleton_append, ← keys_of_follows hfollows]
      exact hkeys
    rw [takeOver_of_unmet hkeys hfollows hbefore hvalue hrule]
    refine .upTo rfl hbefore hvalue hrule rfl (o.entries_without _) (fun t ht => ?_)
    -- No key occurs twice in the table, so that of a later setting has not been taken.
    rw [Options.get?_without, if_neg]
    rw [List.map_append] at hnodup
    exact fun hmem => List.disjoint_of_nodup_append hnodup hmem (List.mem_map_of_mem ht)
  · rw [takeOver_of_sound hkeys (fault?_of_met hfollows hmet), keys_of_follows hfollows]
    exact .all hmet (o.entries_without _)

end Layer

/-- **WHAT IS LEFT OF A BAG.**  For every layer, and on top of every base: a layer whose settings
    are all met leaves the bag without its keys.  Otherwise the first setting of the table that is
    not met is named, and the bag is left without the keys up to that one.  All other entries are
    left as they were. -/
theorem LayerName.take_leaves_rest (o : Options) :
    (∀ name : LayerName, name.keys = name.settings.map Setting.key
        ∧ TakesOut name.settings o (name.take o))
      ∧ (∀ base, TakesOut WorkspaceConfig.settings o (WorkspaceConfig.layer.takeOver base o))
      ∧ (∀ base, TakesOut SessionConfig.settings o (SessionConfig.layer.takeOver base o)) := by
  refine ⟨fun name => ?_, ?_, ?_⟩
  · obtain ⟨σ, l, wrap, hlayer⟩ := name.exists_standsFor
    rw [hlayer.keys, hlayer.take]
    refine ⟨Layer.keys_of_follows hlayer.follows, ?_⟩
    exact (Layer.takesOut_takeOver hlayer.nodup hlayer.follows l.defaults o).map wrap
  · intro base
    exact Layer.takesOut_takeOver WorkspaceConfig.nodup_keys_layer
      WorkspaceConfig.follows_settings base o
  · intro base
    exact Layer.takesOut_takeOver SessionConfig.nodup_keys_layer SessionConfig.follows_settings
      base o

/-- A text that names no access mode is taken out all the same, and what the layer does not know is
    not called unknown yet. -/
example : LayerName.take .session (SortedMap.ofList [("bookmarks", .string "b"),
      ("default_access_mode", .string "up"), ("keep_alive", .null)])
    = (.error (.inadmissible "default_access_mode" "READ or WRITE" (.string "up")),
        SortedMap.ofList [("keep_alive", .null)]) := by
  rfl

end GraphLink
