import GraphLink.Config.Chain
import GraphLink.Proofs.Options.Security
import GraphLink.Proofs.Options.Taking

/-! # The configuration of a driver, option by option

    `PoolConfig.overlaid` says what each option does to a configuration of a pool, and
    `valueOver_layer` that the pool layer does just that.  A driver's configuration is the pool
    layer, and the workspace layer of what is left.

    Securing a bag changes two options of the pool layer and nothing else, so it changes two parts
    of the configuration and nothing else (`DriverConfig.consume_of_secured`). -/

namespace GraphLink

/-- The number in a value that is an integer and not negative. -/
def Value.asSize (v : Value) : Option Nat :=
  (v.asInt.filter (fun i => 0 ≤ i.toInt)).map (fun i => i.toInt.toNat)

namespace PoolConfig

/-- The configuration of a pool with the options of a bag on top. -/
def overlaid (base : PoolConfig) (o : Options) : PoolConfig where
  connectionTimeout := o.valueOr "connection_timeout" Value.asDuration base.connectionTimeout
  updateRoutingTableTimeout :=
    o.valueOr "update_routing_table_timeout" Value.asDuration base.updateRoutingTableTimeout
  keepAlive := o.valueOr "keep_alive" Value.asBool base.keepAlive
  maxConnectionLifetime :=
    o.valueOr "max_connection_lifetime" Value.asDuration base.maxConnectionLifetime
  maxConnectionPoolSize :=
    o.valueOr "max_connection_pool_size" Value.asSize base.maxConnectionPoolSize
  encrypted := o.valueOr Options.encryptedKey Value.asBool base.encrypted
  trust :=
    o.valueOr Options.certificatesKey (fun v => (Field.readStrings v).map Trust.ofPaths) base.trust
  userAgent := o.valueOr "user_agent" Value.asString base.userAgent

theorem nodup_keys_layer : layer.keys.Nodup := by
  decide

/-- What the fields do one by one is what each option does to its part. -/
theorem valueOver_layer (base : PoolConfig) (o : Options) :
    layer.valueOver base o = base.overlaid o := by
  have htrust : Field.strings Options.certificatesKey
      (fun v c => { c with trust := .ofPaths v })
      = Field.of Options.certificatesKey "a list of strings"
          (fun v => (Field.readStrings v).map Trust.ofPaths)
          (fun t (c : PoolConfig) => { c with trust := t }) :=
    Field.of_map _ _ _ Trust.ofPaths (fun t (c : PoolConfig) => { c with trust := t })
  rw [Layer.valueOver, layer]
  simp only [htrust, List.foldl_cons, List.foldl_nil]
  simp only [Field.duration, Field.bool, Field.size, Field.string]
  rw [Field.setFrom_of "connection_timeout" connectionTimeout,
    Field.setFrom_of "update_routing_table_timeout" updateRoutingTableTimeout,
    Field.setFrom_of "keep_alive" keepAlive,
    Field.setFrom_of "max_connection_lifetime" maxConnectionLifetime,
    Field.setFrom_of "max_connection_pool_size" maxConnectionPoolSize,
    Field.setFrom_of Options.encryptedKey encrypted,
    Field.setFrom_of Options.certificatesKey trust,
    Field.setFrom_of "user_agent" userAgent]
  · rfl
  all_goals
    intro c
    rfl

/-- An entry for the option that turns encryption on changes nothing else. -/
theorem overlaid_insert_encrypted (base : PoolConfig) (o : Options) (v : Bool) :
    base.overlaid (o.insert Options.encryptedKey (.bool v))
      = { base.overlaid o with encrypted := v } := by
  simp [overlaid, Options.valueOr_insert, Options.encryptedKey, Options.certificatesKey,
    Value.asBool]

/-- An empty list of certificates stands for all of them, and changes nothing else. -/
theorem overlaid_insert_certificates (base : PoolConfig) (o : Options) :
    base.overlaid (o.insert Options.certificatesKey (.list []))
      = { base.overlaid o with trust := .all } := by
  simp [overlaid, Options.valueOr_insert, Options.encryptedKey, Options.certificatesKey,
    Field.readStrings, Trust.ofPaths]

/-- Without the option for certificates, trust is left as it is. -/
theorem trust_overlaid_of_absent {o : Options} (h : o.get? Options.certificatesKey = none)
    (base : PoolConfig) : (base.overlaid o).trust = base.trust :=
  Options.valueOr_of_absent h _ _

end PoolConfig

namespace DriverConfig

variable {o o' : Options} {security : Security}

/-- The options of a driver are refused for the first fault of the pool layer, and otherwise for
    what the workspace layer makes of the rest. -/
theorem consume_eq (o : Options) :
    consume o = match PoolConfig.layer.fault? o with
      | some fault => .error fault
      | none => (WorkspaceConfig.layer.consume (o.without PoolConfig.layer.keys)).map
          (DriverConfig.mk (PoolConfig.layer.defaults.overlaid o)) := by
  rw [consume, Layer.take]
  cases h : PoolConfig.layer.fault? o with
  | some fault =>
      have htake := Layer.takeOver_of_fault PoolConfig.nodup_keys_layer h PoolConfig.layer.defaults
      generalize PoolConfig.layer.takeOver PoolConfig.layer.defaults o = taken at htake
      obtain ⟨result, rest⟩ := taken
      cases htake
      rfl
  | none =>
      rw [Layer.takeOver_of_sound PoolConfig.nodup_keys_layer h, PoolConfig.valueOver_layer]

/-- The pool's part is what the pool layer takes out of the bag. -/
theorem take_pool_of_consume {c : DriverConfig} (h : consume o = .ok c) :
    (PoolConfig.layer.take o).1 = .ok c.pool := by
  rw [consume] at h
  generalize PoolConfig.layer.take o = taken at h ⊢
  obtain ⟨result, rest⟩ := taken
  cases result with
  | error fault => exact nomatch h
  | ok pool =>
      have hmap : (WorkspaceConfig.layer.consume rest).map (DriverConfig.mk pool) = .ok c := h
      cases hrest : WorkspaceConfig.layer.consume rest with
      | error fault =>
          rw [hrest] at hmap
          exact nomatch hmap
      | ok workspace =>
          rw [hrest] at hmap
          cases hmap
          rfl

/-- What a security mode settles in the configuration. -/
def secure (security : Security) (c : DriverConfig) : DriverConfig :=
  match security with
  | .plain => c
  | .verified => { c with pool := { c.pool with encrypted := true, trust := .system } }
  | .selfSigned => { c with pool := { c.pool with encrypted := true, trust := .all } }

/-- A new entry of the pool layer changes the pool's part of the configuration and no other. -/
theorem consume_insert {key : String} {value : Value} (change : PoolConfig → PoolConfig)
    (hkey : key ∈ PoolConfig.layer.keys) (habsent : o.get? key = none)
    (hadmits : ∀ f ∈ PoolConfig.layer.fields, f.key = key → f.admits value = true)
    (hover : PoolConfig.layer.defaults.overlaid (o.insert key value)
      = change (PoolConfig.layer.defaults.overlaid o)) :
    consume (o.insert key value) = (consume o).map (fun c => { c with pool := change c.pool }) := by
  rw [consume_eq, consume_eq, Layer.fault?_insert habsent hadmits,
    Options.without_insert_of_mem hkey, hover]
  cases PoolConfig.layer.fault? o with
  | some fault => rfl
  | none => cases WorkspaceConfig.layer.consume (o.without PoolConfig.layer.keys) <;> rfl

/-- Turning encryption on in a bag that says nothing of it is turning it on in the configuration. -/
theorem consume_insert_encrypted (hencrypted : o.get? Options.encryptedKey = none)
    (hcertificates : o.get? Options.certificatesKey = none) :
    consume (o.insert Options.encryptedKey (.bool true)) = (consume o).map (secure .verified) := by
  refine consume_insert (fun p => { p with encrypted := true, trust := .system }) (by decide)
    hencrypted (by decide) ?_
  have htrust := PoolConfig.trust_overlaid_of_absent hcertificates PoolConfig.layer.defaults
  rw [PoolConfig.overlaid_insert_encrypted]
  generalize PoolConfig.layer.defaults.overlaid o = p at htrust
  cases p
  cases htrust
  rfl

/-- **SECURING OPTIONS SECURES THE CONFIGURATION** and changes nothing else: neither another part
    of the configuration nor, if the options are refused, why. -/
theorem consume_of_secured (h : Options.Secured o security o') :
    consume o' = (consume o).map (secure security) := by
  cases h with
  | plain => cases consume o <;> rfl
  | verified hencrypted hcertificates => exact consume_insert_encrypted hencrypted hcertificates
  | selfSigned hencrypted hcertificates =>
      have hstill : SortedMap.get? (o.insert Options.encryptedKey (.bool true))
          Options.certificatesKey = none := by
        rw [SortedMap.get?_insert_of_ne o (by decide)]
        exact hcertificates
      rw [consume_insert (fun p => { p with trust := .all }) (by decide) hstill (by decide)
          (PoolConfig.overlaid_insert_certificates PoolConfig.layer.defaults _),
        consume_insert_encrypted hencrypted hcertificates]
      cases consume o <;> rfl

/-- What comes of a secured bag comes of the bag before, but for what the mode settles. -/
theorem base_of_consume_secured {config : DriverConfig} (h : Options.Secured o security o')
    (hoptions : consume o' = .ok config) :
    ∃ base, consume o = .ok base ∧ config = base.secure security := by
  rw [consume_of_secured h] at hoptions
  cases hconsume : consume o with
  | error fault =>
      rw [hconsume] at hoptions
      cases hoptions
  | ok base =>
      rw [hconsume] at hoptions
      exact ⟨base, rfl, (Except.ok.inj hoptions).symm⟩

end DriverConfig
end GraphLink
