import GraphLink.Config.Workspace
import GraphLink.Proofs.Options.Consuming

/-! # The configuration of a workspace, option by option

    `WorkspaceConfig.overlaid` says what each option does to a configuration of a workspace, and
    `WorkspaceConfig.valueOver_layer` that the workspace layer does just that: every part of the
    configuration comes from the option of its own name, or from the base. -/

namespace GraphLink

/-- The text in a value that is a string, or no text if it is null. -/
def Value.asOptionalString (v : Value) : Option (Option String) :=
  if v.isNull then some none else v.asString.map some

namespace WorkspaceConfig

/-- The configuration of a workspace with the options of a bag on top. -/
def overlaid (base : WorkspaceConfig) (o : Options) : WorkspaceConfig where
  connectionAcquisitionTimeout :=
    o.valueOr "connection_acquisition_timeout" Value.asDuration base.connectionAcquisitionTimeout
  maxTransactionRetryTime :=
    o.valueOr "max_transaction_retry_time" Value.asDuration base.maxTransactionRetryTime
  initialRetryDelay := o.valueOr "initial_retry_delay" Value.asDuration base.initialRetryDelay
  retryDelayMultiplier :=
    o.valueOr "retry_delay_multiplier" Value.asFloat base.retryDelayMultiplier
  retryDelayJitterFactor :=
    o.valueOr "retry_delay_jitter_factor" Value.asFloat base.retryDelayJitterFactor
  database := o.valueOr "database" Value.asOptionalString base.database
  fetchSize := o.valueOr fetchSizeKey Value.asInt base.fetchSize
  impersonatedUser := o.valueOr "impersonated_user" Value.asOptionalString base.impersonatedUser

theorem nodup_keys_layer : layer.keys.Nodup := by
  decide

/-- What the fields do one by one is what each option does to its part. -/
theorem valueOver_layer (base : WorkspaceConfig) (o : Options) :
    layer.valueOver base o = base.overlaid o := by
  rw [Layer.valueOver, layer]
  simp only [List.foldl_cons, List.foldl_nil]
  simp only [Field.duration, Field.float, Field.int, Field.optionalString]
  rw [Field.setFrom_of "connection_acquisition_timeout" connectionAcquisitionTimeout,
    Field.setFrom_of "max_transaction_retry_time" maxTransactionRetryTime,
    Field.setFrom_of "initial_retry_delay" initialRetryDelay,
    Field.setFrom_of "retry_delay_multiplier" retryDelayMultiplier,
    Field.setFrom_of "retry_delay_jitter_factor" retryDelayJitterFactor,
    Field.setFrom_of "database" database,
    Field.setFrom_of fetchSizeKey fetchSize,
    Field.setFrom_of "impersonated_user" impersonatedUser]
  · rfl
  all_goals
    intro c
    rfl

/-- One bag on top of another is both at once on top of the base. -/
theorem overlaid_insertMany {o₂ : Options} (h : layer.fault? o₂ = none) (base : WorkspaceConfig)
    (o₁ : Options) : (base.overlaid o₁).overlaid o₂ = base.overlaid (o₁.insertMany o₂.entries) := by
  have hfields := Layer.fault?_eq_none_iff.mp h
  simp only [layer, List.forall_mem_cons] at hfields
  obtain ⟨hacquisition, hretry, hdelay, hmultiplier, hjitter, hdatabase, hfetch, huser, -⟩ :=
    hfields
  simp only [overlaid, mk.injEq]
  exact ⟨(Field.valueOr_insertMany (fun _ => rfl) hacquisition o₁ _).symm,
    (Field.valueOr_insertMany (fun _ => rfl) hretry o₁ _).symm,
    (Field.valueOr_insertMany (fun _ => rfl) hdelay o₁ _).symm,
    (Field.valueOr_insertMany (fun _ => rfl) hmultiplier o₁ _).symm,
    (Field.valueOr_insertMany (fun _ => rfl) hjitter o₁ _).symm,
    (Field.valueOr_insertMany (fun _ => rfl) hdatabase o₁ _).symm,
    (Field.valueOr_insertMany (fun _ => rfl) hfetch o₁ _).symm,
    (Field.valueOr_insertMany (fun _ => rfl) huser o₁ _).symm⟩

/-- A null stands for no text, whatever the base has. -/
theorem valueOr_of_null {o : Options} {key : String} (h : o.get? key = some .null)
    (default : Option String) : o.valueOr key Value.asOptionalString default = none := by
  rw [Options.valueOr, h]
  rfl

end WorkspaceConfig
end GraphLink
