import GraphLink.Config.Session
import GraphLink.Proofs.Config.Workspace

/-! # The configuration of a session

    A session has the configuration of a workspace and two settings of its own, and
    `SessionConfig.overlaid` says what each option does to it.

    The options of a driver are consumed long before those of a session, and what is kept of them
    is a configuration, not a bag.  Nothing is lost by that: setting the session's options on top
    of the driver's configuration is consuming both bags at once, the session's on top
    (`SessionConfig.consumeOver_eq_consume`). -/

namespace GraphLink.SessionConfig

variable {o o₁ o₂ : Options} {W : WorkspaceConfig}

/-- The bookmarks in a value that is a list of strings. -/
def readBookmarks (v : Value) : Option (List Bookmark) :=
  (Field.readStrings v).map (fun values => values.map Bookmark.mk)

/-- The mode in a value that is the name of one. -/
def readMode (v : Value) : Option AccessMode :=
  v.asString.bind AccessMode.ofName?

/-- The configuration of a session with the options of a bag on top. -/
def overlaid (base : SessionConfig) (o : Options) : SessionConfig where
  workspace := base.workspace.overlaid o
  bookmarks := o.valueOr "bookmarks" readBookmarks base.bookmarks
  defaultAccessMode := o.valueOr "default_access_mode" readMode base.defaultAccessMode

/-- The field of the bookmarks: a list of strings. -/
def bookmarksField : Field SessionConfig :=
  .strings "bookmarks" (fun v c => { c with bookmarks := v.map Bookmark.mk })

/-- The field of the bookmarks reads a list of strings. -/
theorem read_bookmarksField (v : Value) :
    bookmarksField.read v = (readBookmarks v).map (fun b c => { c with bookmarks := b }) := by
  rw [readBookmarks, Option.map_map]
  rfl

theorem read_accessModeField (v : Value) :
    accessModeField.read v
      = (readMode v).map (fun mode c => { c with defaultAccessMode := mode }) :=
  rfl

/-- The session layer has the fields of the workspace layer, in the workspace of a session, and two
    of its own. -/
theorem fields_layer : layer.fields
    = WorkspaceConfig.layer.fields.map
          (·.within (fun set c => { c with workspace := set c.workspace }))
        ++ [bookmarksField, accessModeField] := rfl

theorem nodup_keys_layer : layer.keys.Nodup := by
  decide

/-- The workspace layer's keys are among those of the session layer. -/
theorem mem_keys_layer {key : String} (h : key ∈ WorkspaceConfig.layer.keys) :
    key ∈ layer.keys := by
  obtain ⟨f, hf, rfl⟩ := List.mem_map.mp h
  refine List.mem_map.mpr ⟨f.within (fun set c => { c with workspace := set c.workspace }), ?_, rfl⟩
  exact List.mem_append_left _ (List.mem_map_of_mem hf)

/-- A bag has no fault in the session layer if it has none in the workspace layer and none in the
    two settings of a session. -/
theorem fault?_layer_eq_none_iff : layer.fault? o = none
    ↔ WorkspaceConfig.layer.fault? o = none
      ∧ bookmarksField.fault? o = none ∧ accessModeField.fault? o = none := by
  rw [Layer.fault?_eq_none_iff, Layer.fault?_eq_none_iff, fields_layer, List.forall_mem_append,
    List.forall_mem_map, List.forall_mem_cons, List.forall_mem_singleton]
  simp only [Field.fault?_within]

/-- What the fields do one by one is what each option does to its part. -/
theorem valueOver_layer (base : SessionConfig) (o : Options) :
    layer.valueOver base o = base.overlaid o := by
  have hworkspace := Field.foldl_setFrom_within
    (fun set (c : SessionConfig) => { c with workspace := set c.workspace })
    workspace (fun w c => { c with workspace := w })
    (fun _ _ => rfl) (fun _ => rfl) (fun _ _ => rfl) (fun _ _ _ => rfl)
    WorkspaceConfig.layer.fields o base
  have hbookmarks (c : SessionConfig) : bookmarksField.setFrom o c
      = { c with bookmarks := o.valueOr "bookmarks" readBookmarks c.bookmarks } :=
    Field.setFrom_of_read bookmarks read_bookmarksField (fun _ => rfl) o c
  have hmode (c : SessionConfig) : accessModeField.setFrom o c
      = { c with
          defaultAccessMode := o.valueOr "default_access_mode" readMode c.defaultAccessMode } :=
    Field.setFrom_of_read defaultAccessMode read_accessModeField (fun _ => rfl) o c
  rw [Layer.valueOver, fields_layer, List.foldl_append, hworkspace]
  simp only [List.foldl_cons, List.foldl_nil]
  rw [hmode, hbookmarks, ← Layer.valueOver, WorkspaceConfig.valueOver_layer]
  rfl

/-- Options on top of options are both at once, the upper ones on top. -/
theorem overlaid_insertMany (h : layer.fault? o₂ = none) (base : SessionConfig) (o₁ : Options) :
    (base.overlaid o₁).overlaid o₂ = base.overlaid (o₁.insertMany o₂.entries) := by
  obtain ⟨hworkspace, hbookmarks, hmode⟩ := fault?_layer_eq_none_iff.mp h
  simp only [overlaid, mk.injEq]
  refine ⟨WorkspaceConfig.overlaid_insertMany hworkspace base.workspace o₁, ?_, ?_⟩
  · exact (Field.valueOr_insertMany read_bookmarksField hbookmarks o₁ _).symm
  · exact (Field.valueOr_insertMany read_accessModeField hmode o₁ _).symm

/-- Layer on layer comes to the same as bag on bag. -/
theorem overlays_layer : layer.Overlays := by
  intro base o₁ o₂ h
  rw [valueOver_layer, valueOver_layer, valueOver_layer, overlaid_insertMany h]

/-- What the workspace layer consumes, a session can be made of: there are no settings of its own
    in it. -/
theorem consume_of_workspace (h : WorkspaceConfig.layer.consume o = .ok W) :
    layer.consume o = .ok { workspace := W } := by
  obtain ⟨hsound, hrest, rfl⟩ := Layer.consumeOver_eq_ok WorkspaceConfig.nodup_keys_layer h
  -- Nothing was left behind the workspace layer, so there is nothing for the other two fields.
  have hother : ∀ q, q ∉ WorkspaceConfig.layer.keys → o.get? q = none := by
    intro q hq
    rw [← hrest q, Options.get?_without, if_neg hq]
  have hbookmarks : o.get? "bookmarks" = none := hother _ (by decide)
  have hmode : o.get? "default_access_mode" = none := hother _ (by decide)
  have hfault : layer.fault? o = none :=
    fault?_layer_eq_none_iff.mpr
      ⟨hsound, Field.fault?_of_absent hbookmarks, Field.fault?_of_absent hmode⟩
  have hleft : ∀ q, (o.without layer.keys).get? q = none := by
    intro q
    rw [Options.get?_without]
    by_cases hq : q ∈ layer.keys
    · exact if_pos hq
    · rw [if_neg hq]
      exact hother q (fun hmem => hq (mem_keys_layer hmem))
  have hvalue : layer.valueOver layer.defaults o
      = { workspace := WorkspaceConfig.layer.valueOver WorkspaceConfig.layer.defaults o } := by
    rw [valueOver_layer, WorkspaceConfig.valueOver_layer, overlaid,
      Options.valueOr_of_absent hbookmarks, Options.valueOr_of_absent hmode]
    rfl
  rw [← hvalue]
  exact Layer.consumeOver_of_sound nodup_keys_layer hfault hleft layer.defaults

/-- What a session has of its driver's configuration, after its own options. -/
theorem workspace_of_consumeOver {c : SessionConfig} (h : consumeOver W o = .ok c) :
    c.workspace = W.overlaid o := by
  obtain ⟨-, -, rfl⟩ := Layer.consumeOver_eq_ok nodup_keys_layer h
  rw [valueOver_layer]
  rfl

/-- **LAYERING IS MERGING**: on top of the workspace that a first bag makes, a second bag makes the
    same session as both bags at once, the second on top, and is refused for the same fault.  In
    what it makes, each option that the second bag does not have is left as the first one set it,
    and a null in it clears the database or the user. -/
theorem consumeOver_eq_consume (h : WorkspaceConfig.layer.consume o₁ = .ok W) (o₂ : Options) :
    consumeOver W o₂ = layer.consume (o₁.insertMany o₂.entries)
      ∧ ∀ c, consumeOver W o₂ = .ok c →
          c.workspace = W.overlaid o₂
            ∧ (o₂.get? "database" = some .null → c.workspace.database = none)
            ∧ (o₂.get? "impersonated_user" = some .null → c.workspace.impersonatedUser = none) := by
  have hsession := consume_of_workspace h
  refine ⟨Layer.consumeOver_of_consume nodup_keys_layer overlays_layer hsession o₂, ?_⟩
  intro c hc
  have hworkspace := workspace_of_consumeOver hc
  refine ⟨hworkspace, ?_, ?_⟩
  · intro hnull
    rw [hworkspace]
    exact WorkspaceConfig.valueOr_of_null hnull W.database
  · intro hnull
    rw [hworkspace]
    exact WorkspaceConfig.valueOr_of_null hnull W.impersonatedUser

/-- A session without a database on top of a driver that has one. -/
theorem consumeOver_eq_consume_cleared :
    WorkspaceConfig.layer.consume
        (SortedMap.ofList [("database", .string "movies"), ("fetch_size", .int 5)])
      = .ok { database := some "movies", fetchSize := 5 }
      ∧ consumeOver { database := some "movies", fetchSize := 5 }
          (SortedMap.ofList [("database", .null), ("default_access_mode", .string "read")])
        = layer.consume (SortedMap.ofList
          [("database", .null), ("default_access_mode", .string "read"), ("fetch_size", .int 5)])
      ∧ layer.consume (SortedMap.ofList
          [("database", .null), ("default_access_mode", .string "read"), ("fetch_size", .int 5)])
        = .ok { workspace := { fetchSize := 5 }, defaultAccessMode := .read } := by
  have hdriver : WorkspaceConfig.layer.consume
      (SortedMap.ofList [("database", .string "movies"), ("fetch_size", .int 5)])
      = .ok { database := some "movies", fetchSize := 5 } := by
    rfl
  refine ⟨hdriver, ?_, ?_⟩
  · exact (consumeOver_eq_consume hdriver
      (SortedMap.ofList [("database", .null), ("default_access_mode", .string "read")])).1
  · rfl

end GraphLink.SessionConfig
