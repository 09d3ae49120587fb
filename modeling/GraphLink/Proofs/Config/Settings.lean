import GraphLink.Proofs.Config.Layering
import GraphLink.Proofs.Config.Rules

/-! # The settings of a driver

    The sixteen settings of a driver are a table: eight of the pool, then eight of the workspace,
    each with its rule.  The layers follow the table, so what becomes of a bag of options can be
    read off the table alone (`DriverConfig.consume_meets_settings`): the first setting that is not
    met is named; otherwise the keys outside the table are; otherwise every part of the
    configuration is made of the option of its own name (`DriverConfig.IsMadeOf`).

    Sessions have two settings more. -/

namespace GraphLink

-- ── Parts of a configuration ───────────────────────────────────────

/-- Whether `a` is the value of a key as `convert` reads it, or the default if the bag has none. -/
def Options.Gives {α : Type} (o : Options) (key : String) (convert : Value → Option α)
    (default a : α) : Prop :=
  match o.get? key with
  | none => a = default
  | some value => convert value = some a

/-- An option that meets its rule is never passed over for the default. -/
theorem Setting.gives_valueOr {α : Type} {key : String} {rule : Rule} {o : Options}
    {convert : Value → Option α} (hmet : IsMetBy ⟨key, rule⟩ o) (hread : rule.IsReadBy convert)
    (default : α) : o.Gives key convert default (o.valueOr key convert default) := by
  rw [Options.Gives, Options.valueOr]
  cases hvalue : o.get? key with
  | none => rfl
  | some value =>
      obtain ⟨a, ha⟩ := Option.isSome_iff_exists.mp ((hread value).mp (hmet value hvalue))
      show convert value = some ((convert value).getD default)
      rw [ha]
      rfl

/-- The trust in a value: an empty list is every certificate, a list of paths or a single path is
    those certificates. -/
def Trust.read : Value → Option Trust
  | .string path => some (.only [path])
  | .list [] => some .all
  | .list paths => (paths.mapM Value.asString).map .only
  | _ => none

/-- Trust is read as a list of paths, of which none stands for every certificate. -/
theorem Trust.map_ofPaths_readStrings (v : Value) :
    (Field.readStrings v).map ofPaths = read v := by
  cases v with
  | string path => rfl
  | list items =>
      cases items with
      | nil => rfl
      | cons item rest =>
          rw [Field.readStrings, read, List.mapM_cons]
          · cases item.asString with
            | none => rfl
            | some path => cases rest.mapM Value.asString <;> rfl
          · exact List.cons_ne_nil item rest
  | _ => rfl

/-- Trust is read wherever texts are. -/
theorem Rule.texts_isReadBy_trust : texts.IsReadBy Trust.read := by
  intro v
  rw [← Trust.map_ofPaths_readStrings, Option.isSome_map]
  exact texts_isReadBy v

-- ── The pool ───────────────────────────────────────────────────────

namespace PoolConfig

/-- The settings of a pool. -/
def settings : List Setting := [
  ⟨"connection_timeout", .seconds⟩,
  ⟨"update_routing_table_timeout", .seconds⟩,
  ⟨"keep_alive", .flag⟩,
  ⟨"max_connection_lifetime", .seconds⟩,
  ⟨"max_connection_pool_size", .size⟩,
  ⟨"encrypted", .flag⟩,
  ⟨"trusted_certificates", .texts⟩,
  ⟨"user_agent", .text⟩]

/-- The pool layer follows the settings of a pool. -/
theorem follows_settings : layer.Follows settings :=
  .cons (Field.follows_of Rule.seconds_isReadBy rfl) <|
  .cons (Field.follows_of Rule.seconds_isReadBy rfl) <|
  .cons (Field.follows_of Rule.flag_isReadBy rfl) <|
  .cons (Field.follows_of Rule.seconds_isReadBy rfl) <|
  .cons (Field.follows_of Rule.size_isReadBy rfl) <|
  .cons (Field.follows_of Rule.flag_isReadBy rfl) <|
  .cons (Field.follows_of Rule.texts_isReadBy rfl) <|
  .cons (Field.follows_of Rule.text_isReadBy rfl) .nil

/-- A configuration of a pool that is made of the options of a bag, part by part. -/
structure IsMadeOf (c : PoolConfig) (o : Options) : Prop where
  connectionTimeout :
    o.Gives "connection_timeout" Value.asDuration (.seconds 30) c.connectionTimeout
  updateRoutingTableTimeout :
    o.Gives "update_routing_table_timeout" Value.asDuration (.seconds 90)
      c.updateRoutingTableTimeout
  keepAlive : o.Gives "keep_alive" Value.asBool true c.keepAlive
  maxConnectionLifetime :
    o.Gives "max_connection_lifetime" Value.asDuration (.seconds 3600) c.maxConnectionLifetime
  maxConnectionPoolSize :
    o.Gives "max_connection_pool_size" Value.asSize 100 c.maxConnectionPoolSize
  encrypted : o.Gives "encrypted" Value.asBool false c.encrypted
  trust : o.Gives "trusted_certificates" Trust.read .system c.trust
  userAgent : o.Gives "user_agent" Value.asString "bolt-connect/0.1.0" c.userAgent

/-- Where all settings are met, the configuration of a pool is made of them. -/
theorem isMadeOf_overlaid {o : Options} (h : ∀ s ∈ settings, s.IsMetBy o) :
    (layer.defaults.overlaid o).IsMadeOf o := by
  simp only [settings, List.forall_mem_cons] at h
  obtain ⟨hconnect, hupdate, halive, hlifetime, hsize, hencrypted, htrust, hagent, -⟩ := h
  have htrustRead : (layer.defaults.overlaid o).trust
      = o.valueOr "trusted_certificates" Trust.read .system := by
    rw [← funext Trust.map_ofPaths_readStrings]
    rfl
  exact {
    connectionTimeout := Setting.gives_valueOr hconnect Rule.seconds_isReadBy _
    updateRoutingTableTimeout := Setting.gives_valueOr hupdate Rule.seconds_isReadBy _
    keepAlive := Setting.gives_valueOr halive Rule.flag_isReadBy _
    maxConnectionLifetime := Setting.gives_valueOr hlifetime Rule.seconds_isReadBy _
    maxConnectionPoolSize := Setting.gives_valueOr hsize Rule.size_isReadBy _
    encrypted := Setting.gives_valueOr hencrypted Rule.flag_isReadBy _
    trust := by
      rw [htrustRead]
      exact Setting.gives_valueOr htrust Rule.texts_isReadBy_trust _
    userAgent := Setting.gives_valueOr hagent Rule.text_isReadBy _ }

end PoolConfig

-- ── The workspace ──────────────────────────────────────────────────

namespace WorkspaceConfig

/-- The settings of a workspace. -/
def settings : List Setting := [
  ⟨"connection_acquisition_timeout", .seconds⟩,
  ⟨"max_transaction_retry_time", .seconds⟩,
  ⟨"initial_retry_delay", .seconds⟩,
  ⟨"retry_delay_multiplier", .number⟩,
  ⟨"retry_delay_jitter_factor", .number⟩,
  ⟨"database", .textOrNull⟩,
  ⟨"fetch_size", .integer⟩,
  ⟨"impersonated_user", .textOrNull⟩]

/-- The workspace layer follows the settings of a workspace. -/
theorem follows_settings : layer.Follows settings :=
  .cons (Field.follows_of Rule.seconds_isReadBy rfl) <|
  .cons (Field.follows_of Rule.seconds_isReadBy rfl) <|
  .cons (Field.follows_of Rule.seconds_isReadBy rfl) <|
  .cons (Field.follows_of Rule.number_isReadBy rfl) <|
  .cons (Field.follows_of Rule.number_isReadBy rfl) <|
  .cons (Field.follows_of Rule.textOrNull_isReadBy rfl) <|
  .cons (Field.follows_of Rule.integer_isReadBy rfl) <|
  .cons (Field.follows_of Rule.textOrNull_isReadBy rfl) .nil

/-- A configuration of a workspace that is made of the options of a bag, part by part.  The factors
    are the doubles nearest to 2 and to 0.2. -/
structure IsMadeOf (c : WorkspaceConfig) (o : Options) : Prop where
  connectionAcquisitionTimeout :
    o.Gives "connection_acquisition_timeout" Value.asDuration (.seconds 60)
      c.connectionAcquisitionTimeout
  maxTransactionRetryTime :
    o.Gives "max_transaction_retry_time" Value.asDuration (.seconds 30) c.maxTransactionRetryTime
  initialRetryDelay :
    o.Gives "initial_retry_delay" Value.asDuration (.seconds 1) c.initialRetryDelay
  retryDelayMultiplier :
    o.Gives "retry_delay_multiplier" Value.asFloat (Binary64.ofInt 2) c.retryDelayMultiplier
  retryDelayJitterFactor :
    o.Gives "retry_delay_jitter_factor" Value.asFloat (Binary64.ofRatio false 1 5)
      c.retryDelayJitterFactor
  database : o.Gives "database" Value.asOptionalString none c.database
  fetchSize : o.Gives "fetch_size" Value.asInt 1000 c.fetchSize
  impersonatedUser : o.Gives "impersonated_user" Value.asOptionalString none c.impersonatedUser

theorem retryDelayMultiplier_defaults :
    layer.defaults.retryDelayMultiplier = Binary64.ofInt 2 := by
  decide +kernel

theorem retryDelayJitterFactor_defaults :
    layer.defaults.retryDelayJitterFactor = Binary64.ofRatio false 1 5 := by
  decide +kernel

/-- Where all settings are met, the configuration of a workspace is made of them. -/
theorem isMadeOf_overlaid {o : Options} (h : ∀ s ∈ settings, s.IsMetBy o) :
    (layer.defaults.overlaid o).IsMadeOf o := by
  simp only [settings, List.forall_mem_cons] at h
  obtain ⟨hacquisition, hretry, hdelay, hmultiplier, hjitter, hdatabase, hfetch, huser, -⟩ := h
  exact {
    connectionAcquisitionTimeout := Setting.gives_valueOr hacquisition Rule.seconds_isReadBy _
    maxTransactionRetryTime := Setting.gives_valueOr hretry Rule.seconds_isReadBy _
    initialRetryDelay := Setting.gives_valueOr hdelay Rule.seconds_isReadBy _
    retryDelayMultiplier := by
      rw [← retryDelayMultiplier_defaults]
      exact Setting.gives_valueOr hmultiplier Rule.number_isReadBy _
    retryDelayJitterFactor := by
      rw [← retryDelayJitterFactor_defaults]
      exact Setting.gives_valueOr hjitter Rule.number_isReadBy _
    database := Setting.gives_valueOr hdatabase Rule.textOrNull_isReadBy _
    fetchSize := Setting.gives_valueOr hfetch Rule.integer_isReadBy _
    impersonatedUser := Setting.gives_valueOr huser Rule.textOrNull_isReadBy _ }

end WorkspaceConfig

-- ── Sessions ───────────────────────────────────────────────────────

namespace SessionConfig

/-- The settings of a session: those of a workspace, then two of its own. -/
def settings : List Setting :=
  WorkspaceConfig.settings ++ [⟨"bookmarks", .texts⟩, ⟨"default_access_mode", .mode⟩]

/-- A mode is read from the name of one. -/
theorem mode_isReadBy : Rule.mode.IsReadBy readMode := by
  intro v
  constructor
  · rintro ⟨⟩
    rename_i s m hm
    exact Option.isSome_iff_exists.mpr ⟨m, hm⟩
  · intro h
    obtain ⟨m, hm⟩ := Option.isSome_iff_exists.mp h
    cases v with
    | string s => exact .mode hm
    | _ => cases hm

/-- The field of the mode follows its setting. -/
theorem accessModeField_follows : accessModeField.Follows ⟨"default_access_mode", .mode⟩ where
  key := rfl
  expected := by
    funext v
    cases v <;> rfl
  admits := by
    intro v
    rw [Field.admits, read_accessModeField, Option.isSome_map]
    exact (mode_isReadBy v).symm

/-- The session layer follows the settings of a session. -/
theorem follows_settings : layer.Follows settings := by
  have hworkspace : List.Forall₂ Field.Follows
      (WorkspaceConfig.layer.fields.map
        (·.within (fun set (c : SessionConfig) => { c with workspace := set c.workspace })))
      WorkspaceConfig.settings :=
    List.forall₂_map_left_iff.mpr
      (WorkspaceConfig.follows_settings.imp (fun _ _ h => h.within _))
  exact List.rel_append hworkspace
    (.cons (Field.follows_of Rule.texts_isReadBy rfl) (.cons accessModeField_follows .nil))

end SessionConfig

-- ── Drivers ────────────────────────────────────────────────────────

namespace DriverConfig

/-- The settings of a driver: those of its pool, then those of its workspace. -/
def settings : List Setting :=
  PoolConfig.settings ++ WorkspaceConfig.settings

/-- A configuration of a driver that is made of the options of a bag, part by part. -/
structure IsMadeOf (c : DriverConfig) (o : Options) : Prop where
  pool : c.pool.IsMadeOf o
  workspace : c.workspace.IsMadeOf o

/-- The settings of a driver have the keys of its two layers. -/
theorem keys_settings :
    settings.map Setting.key = PoolConfig.layer.keys ++ WorkspaceConfig.layer.keys := by
  rw [settings, List.map_append, Layer.keys_of_follows PoolConfig.follows_settings,
    Layer.keys_of_follows WorkspaceConfig.follows_settings]

/-- The chain of the pool layer and the workspace layer makes the two parts of a driver's
    configuration. -/
theorem consumeChain_eq (o : Options) :
    LayerName.consumeChain [.pool, .workspace] o
      = (consume o).map (fun c => [.pool c.pool, .workspace c.workspace]) := by
  obtain ⟨pool?, rest, hpool⟩ : ∃ r rest, PoolConfig.layer.take o = (r, rest) := ⟨_, _, rfl⟩
  obtain ⟨workspace?, left, hworkspace⟩ :
      ∃ r left, WorkspaceConfig.layer.takeOver WorkspaceConfig.layer.defaults rest = (r, left) :=
    ⟨_, _, rfl⟩
  have hfirst : LayerName.take .pool o = (pool?.map .pool, rest) := by
    rw [LayerName.take, hpool]
  have hsecond : LayerName.take .workspace rest = (workspace?.map .workspace, left) := by
    rw [LayerName.take, Layer.take, hworkspace]
  rw [LayerName.consumeChain, LayerName.takeChain, hfirst, consume, hpool]
  cases pool? with
  | error fault => rfl
  | ok pool =>
      simp only [Except.map, LayerName.takeChain, hsecond, Layer.consume, Layer.consumeOver,
        hworkspace]
      cases workspace? with
      | error fault => rfl
      | ok workspace =>
          simp only
          cases Options.ensureConsumed left <;> rfl

/-- The pool layer leaves the options of the workspace as they are. -/
theorem get?_workspace_without_pool (o : Options) :
    ∀ f ∈ WorkspaceConfig.layer.fields,
      (o.without PoolConfig.layer.keys).get? f.key = o.get? f.key := by
  have hdisjoint : ∀ key ∈ WorkspaceConfig.layer.keys, key ∉ PoolConfig.layer.keys := by
    decide
  intro f hf
  rw [Options.get?_without, if_neg (hdisjoint f.key (List.mem_map_of_mem hf))]

/-- Both layers, by look-ups in the bag at the beginning. -/
theorem consume_eq_fault? (o : Options) :
    consume o = match PoolConfig.layer.fault? o, WorkspaceConfig.layer.fault? o with
      | some fault, _ => .error fault
      | none, some fault => .error fault
      | none, none =>
          (Options.ensureConsumed (o.without (settings.map Setting.key))).map (fun _ =>
            ⟨PoolConfig.layer.defaults.overlaid o, WorkspaceConfig.layer.defaults.overlaid o⟩) := by
  have hframe := get?_workspace_without_pool o
  -- The two layers have no common key, so the second finds in the rest what it finds in the bag.
  have hfault : WorkspaceConfig.layer.fault? (o.without PoolConfig.layer.keys)
      = WorkspaceConfig.layer.fault? o :=
    Layer.fault?_congr (fun f hf => Field.fault?_congr (hframe f hf))
  have hvalue : WorkspaceConfig.layer.valueOver WorkspaceConfig.layer.defaults
        (o.without PoolConfig.layer.keys)
      = WorkspaceConfig.layer.defaults.overlaid o := by
    rw [Layer.valueOver_congr hframe, WorkspaceConfig.valueOver_layer]
  have hkeys : (o.without PoolConfig.layer.keys).without WorkspaceConfig.layer.keys
      = o.without (settings.map Setting.key) := by
    rw [keys_settings]
    exact (List.foldl_append).symm
  rw [consume_eq]
  cases PoolConfig.layer.fault? o with
  | some fault => rfl
  | none =>
      simp only
      rw [Layer.consume, Layer.consumeOver_eq WorkspaceConfig.nodup_keys_layer, hfault, hvalue,
        hkeys]
      cases WorkspaceConfig.layer.fault? o with
      | some fault => rfl
      | none => cases Options.ensureConsumed (o.without (settings.map Setting.key)) <;> rfl

/-- A driver's configuration names the first of its settings that is not met. -/
theorem consume_of_firstUnmet {o : Options} {s : Setting} {v : Value}
    (h : FirstUnmet o settings s v) :
    consume o = .error (.inadmissible s.key (s.rule.expected v) v) := by
  rw [consume_eq_fault?]
  rcases h.of_append with hpool | ⟨hpool, hworkspace⟩
  · rw [Layer.fault?_of_firstUnmet PoolConfig.follows_settings hpool]
  · rw [Layer.fault?_of_met PoolConfig.follows_settings hpool,
      Layer.fault?_of_firstUnmet WorkspaceConfig.follows_settings hworkspace]

/-- Where all settings are met, it is up to what is left whether there is a configuration. -/
theorem consume_of_met {o : Options} (h : ∀ s ∈ settings, s.IsMetBy o) :
    consume o = (Options.ensureConsumed (o.without (settings.map Setting.key))).map (fun _ =>
      ⟨PoolConfig.layer.defaults.overlaid o, WorkspaceConfig.layer.defaults.overlaid o⟩) := by
  obtain ⟨hpool, hworkspace⟩ := List.forall_mem_append.mp h
  rw [consume_eq_fault?, Layer.fault?_of_met PoolConfig.follows_settings hpool,
    Layer.fault?_of_met WorkspaceConfig.follows_settings hworkspace]

/-- **THE OPTIONS OF A DRIVER MEET ITS SETTINGS, OR THE FAULT IS NAMED.**  Either a setting is not
    met, and the first such one of the table is named, whatever else is in the bag; or all are met,
    and then the keys outside the table are named, all of them and in order; or, if there are none,
    every part of the configuration is what the option of its name says, and its default
    otherwise. -/
theorem consume_meets_settings (o : Options) :
    LayerName.consumeChain [.pool, .workspace] o
        = (consume o).map (fun c => [.pool c.pool, .workspace c.workspace])
      ∧ ((∃ s v, FirstUnmet o settings s v) ∨ ∀ s ∈ settings, s.IsMetBy o)
      ∧ (∀ s v, FirstUnmet o settings s v →
          (consume o).mapError Options.Fault.toError
            = .error (.configuration ("Config option '" ++ s.key ++ "' expects "
                ++ s.rule.expected v ++ ", got " ++ v.text)))
      ∧ ((∀ s ∈ settings, s.IsMetBy o) → (∃ key ∈ o.keys, key ∉ settings.map Setting.key) →
          ∃ keys, (consume o).mapError Options.Fault.toError = .error (.unknownOptions keys)
            ∧ keys.Pairwise (· < ·)
            ∧ ∀ key, key ∈ keys ↔ key ∈ o.keys ∧ key ∉ settings.map Setting.key)
      ∧ ((∀ s ∈ settings, s.IsMetBy o) → (∀ key ∈ o.keys, key ∈ settings.map Setting.key) →
          ∃ c, consume o = .ok c ∧ c.IsMadeOf o) := by
  refine ⟨consumeChain_eq o, exists_firstUnmet_or_met o settings, ?_, ?_, ?_⟩
  · intro s v h
    rw [consume_of_firstUnmet h]
    rfl
  · rintro hmet ⟨key, hkey, houtside⟩
    have hmem (q : String) : q ∈ SortedMap.keys (o.without (settings.map Setting.key))
        ↔ q ∈ o.keys ∧ q ∉ settings.map Setting.key := Options.mem_keys_without
    refine ⟨SortedMap.keys (o.without (settings.map Setting.key)), ?_,
      SortedMap.pairwise_keys _, hmem⟩
    have hleft := (hmem key).mpr ⟨hkey, houtside⟩
    rw [consume_of_met hmet, Options.ensureConsumed_of_mem hleft]
    rfl
  · intro hmet hinside
    obtain ⟨hpool, hworkspace⟩ := List.forall_mem_append.mp hmet
    refine ⟨⟨PoolConfig.layer.defaults.overlaid o, WorkspaceConfig.layer.defaults.overlaid o⟩, ?_,
      PoolConfig.isMadeOf_overlaid hpool, WorkspaceConfig.isMadeOf_overlaid hworkspace⟩
    -- With all keys in the table, nothing is left.
    have hempty : o.without (settings.map Setting.key) = SortedMap.empty := by
      refine SortedMap.ext_get? (fun q => SortedMap.get?_eq_none_iff.mpr ?_)
      intro hq
      obtain ⟨hmem, houtside⟩ := Options.mem_keys_without.mp hq
      exact houtside (hinside q hmem)
    rw [consume_of_met hmet, hempty]
    rfl

/-- The order is that of the table, and what is unknown comes last. -/
example : consume (SortedMap.ofList [("a", .null), ("fetch_size", .null), ("keep_alive", .int 1)])
    = .error (.inadmissible "keep_alive" "a boolean" (.int 1)) := by
  rfl

end DriverConfig
end GraphLink
