import GraphLink.Proofs.Client.Calls
import GraphLink.Proofs.Client.Connectivity
import GraphLink.Proofs.Config.Chains
import GraphLink.Proofs.Routing.Table

/-! # Whom a verification asks

    Verifying a cluster asks routers and does nothing else to the pool.  It asks none of them if the
    driver is closed or the options are refused, and otherwise every router of the table, each once
    and in the order of the table (`Driver.verify_asks_routers`).

    All questions are asked before any result is looked at, so what a router does, or fails to do,
    makes no difference to whom else is asked (`Verification.calls_run`).  Going through the results
    calls nothing, and a report that may call nothing has no calls (`Report.calls_eq_nil`).

    Where routers are set anew those with an address that has been mentioned are left out, so no run
    ever leads to a table that mentions an address twice (`World.nodup_table_run`), and no
    verification in a run asks a router twice (`World.asks_no_router_twice`). -/

namespace GraphLink

theorem Report.calls_eq_nil {α : Type} {r : Report α} (h : CallsOnly (fun _ => False) r) :
    r.calls = [] :=
  List.eq_nil_iff_forall_not_mem.mpr h

/-- **EVERY ROUTER IS ASKED ONCE**, whatever becomes of it. -/
theorem Verification.calls_run (b : Backend) (pool : Nat) (w : WorkspaceConfig) :
    (run b pool w).calls = b.table.routers.map (Backend.fetchCall pool w) := by
  have hsettle : ((settle (b.results w.connectionAcquisitionTimeout)).bind requireAnswer).calls
      = [] :=
    Report.calls_eq_nil (Report.callsOnly_bind (settle_callsOnly _) requireAnswer_callsOnly)
  show b.table.routers.map (Backend.fetchCall pool w)
      ++ ((settle (b.results w.connectionAcquisitionTimeout)).bind requireAnswer).calls = _
  rw [hsettle, List.append_nil]

namespace Driver

variable {d : Driver} {initial : List Address} {context : RoutingContext}

/-- **WHOM A VERIFICATION ASKS.**  Nothing but routers, through the driver's own pool.  A closed
    driver asks none, whatever the options; nor does an open one if a setting is not met, and then
    the first of them is named; nor if there are keys that are no settings of a workspace, and then
    these are named, all of them and in order.  Otherwise every router of the table is asked once,
    in the order of the table, on behalf of the driver's workspace with the options on top. -/
theorem verify_asks_routers (hrouting : d.endpoint = .routing initial context) (b : Backend)
    (o : Options) :
    (∀ c ∈ (d.verify b o).calls, c.IsFetch d.pool)
      ∧ (d.isOpen = false → d.verify b o = .fail (.session "Driver is closed"))
      ∧ ((∃ s v, FirstUnmet o WorkspaceConfig.settings s v)
          ∨ ∀ s ∈ WorkspaceConfig.settings, s.IsMetBy o)
      ∧ (d.isOpen = true → ∀ s v, FirstUnmet o WorkspaceConfig.settings s v →
          d.verify b o = .fail (.configuration ("Config option '" ++ s.key ++ "' expects "
            ++ s.rule.expected v ++ ", got " ++ v.text)))
      ∧ (d.isOpen = true → (∀ s ∈ WorkspaceConfig.settings, s.IsMetBy o) →
          (∃ key ∈ o.keys, key ∉ WorkspaceConfig.settings.map Setting.key) →
          ∃ keys, d.verify b o = .fail (.unknownOptions keys)
            ∧ keys.Pairwise (· < ·)
            ∧ ∀ key, key ∈ keys
                ↔ key ∈ o.keys ∧ key ∉ WorkspaceConfig.settings.map Setting.key)
      ∧ (d.isOpen = true → (∀ s ∈ WorkspaceConfig.settings, s.IsMetBy o) →
          (∀ key ∈ o.keys, key ∈ WorkspaceConfig.settings.map Setting.key) →
          ∃ w, WorkspaceConfig.layer.consumeOver d.workspace o = .ok w
            ∧ w = d.workspace.overlaid o
            ∧ (d.verify b o).calls = b.table.routers.map (fun router =>
                .fetch d.pool router w.database w.impersonatedUser 0
                  w.connectionAcquisitionTimeout)) := by
  have hfollows := WorkspaceConfig.follows_settings
  have hkeys := WorkspaceConfig.nodup_keys_layer
  rw [← Layer.keys_of_follows hfollows]
  refine ⟨?_, fun hclosed => verify_of_closed hclosed b o, exists_firstUnmet_or_met o _,
    ?_, ?_, ?_⟩
  -- Telling the routers' answers as the answer of a verification calls nothing.
  · have hcalls : (d.verify b o).calls = (d.verifyRouters b o).calls := by
      rw [verify, hrouting]
      exact Report.calls_map Connectivity.routers _
    rw [hcalls]
    exact d.verifyRouters_callsOnly b o
  · intro hopen s v hunmet
    exact verify_of_fault hopen hrouting
      (Layer.consumeOver_of_firstUnmet hkeys hfollows hunmet d.workspace) b
  · rintro hopen hmet ⟨key, hkey, houtside⟩
    refine ⟨_, verify_of_fault hopen hrouting
      (Layer.consumeOver_of_foreign hkeys hfollows hmet hkey houtside d.workspace) b,
      SortedMap.pairwise_keys _, fun q => Options.mem_keys_without⟩
  · intro hopen hmet hinside
    -- What is left after the three checks are the options of a workspace.
    have hconfig := Layer.consumeOver_of_met hkeys hfollows hmet hinside d.workspace
    refine ⟨_, hconfig, WorkspaceConfig.valueOver_layer d.workspace o, ?_⟩
    rw [verify_of_config hopen hrouting hconfig, Report.calls_map, Verification.calls_run]
    rfl

/-- Routers that fail for good, never answer, and come too late if a second is allowed. -/
def brokenCluster : Backend where
  routers := [
    ⟨⟨"a", 7687⟩, 0, .failure (.configuration "bad")⟩,
    ⟨⟨"b", 7687⟩, 0, .silence⟩,
    ⟨⟨"c", 7687⟩, 1001, .empty⟩]

/-- The options of a second for a connection and a user to stand in for. -/
def guestOptions : Options :=
  oneSecond.insert "impersonated_user" (.string "ann")

/-- The router that fails for good does not keep the others from being asked. -/
theorem verify_asks_routers_broken :
    (standardDriver.verify brokenCluster guestOptions).answer = .error (.configuration "bad")
      ∧ (standardDriver.verify brokenCluster guestOptions).calls
        = [.fetch 0 ⟨"a", 7687⟩ none (some "ann") 0 (.seconds 1),
          .fetch 0 ⟨"b", 7687⟩ none (some "ann") 0 (.seconds 1),
          .fetch 0 ⟨"c", 7687⟩ none (some "ann") 0 (.seconds 1)] := by
  have hrouting : standardDriver.endpoint = .routing [] SortedMap.empty := rfl
  have hconfig : WorkspaceConfig.layer.consumeOver standardDriver.workspace guestOptions
      = .ok { connectionAcquisitionTimeout := .seconds 1, impersonatedUser := some "ann" } := rfl
  obtain ⟨-, -, hmet, -, -, hasks⟩ := verify_asks_routers hrouting brokenCluster guestOptions
  refine ⟨rfl, ?_⟩
  rcases hmet with ⟨s, v, hfirst⟩ | hmet
  · have hrefused := Layer.consumeOver_of_firstUnmet WorkspaceConfig.nodup_keys_layer
      WorkspaceConfig.follows_settings hfirst standardDriver.workspace
    rw [hconfig] at hrefused
    cases hrefused
  · obtain ⟨w, hw, -, hcalls⟩ := hasks rfl hmet (by decide)
    rw [hconfig] at hw
    cases hw
    exact hcalls

end Driver

/-- Setting routers anew makes the table of their addresses; no other setting changes the table. -/
theorem Backend.table_set (b : Backend) (setting : Backend.Setting) :
    (b.set setting).table = b.table
      ∨ ∃ routers : List Router,
          (b.set setting).table = RoutingTable.ofList (routers.map Router.address) := by
  cases setting with
  | routers routers =>
      exact .inr ⟨routers, congrArg RoutingTable.mk (Router.map_address_distinct routers)⟩
  | _ => exact .inl rfl

/-- A table without repetitions stays one, whatever settings are changed. -/
theorem Backend.nodup_table_setAll {b : Backend} (h : b.table.routers.Nodup)
    (settings : List Backend.Setting) : (b.setAll settings).table.routers.Nodup := by
  induction settings generalizing b with
  | nil => exact h
  | cons setting rest ih =>
      refine ih ?_
      obtain hsame | ⟨routers, hmade⟩ := b.table_set setting
      · rw [hsame]
        exact h
      · rw [hmade]
        exact (RoutingTable.firstMentions_ofList _).nodup

namespace World

variable {w : World}

/-- Only a change of the backend changes it. -/
theorem backend_step (w : World) (s : Step) :
    (w.step s).2.backend = w.backend
      ∨ ∃ settings, (w.step s).2.backend = w.backend.setAll settings := by
  cases s with
  | change settings => exact .inr ⟨settings, rfl⟩
  | openUri | openDirect | openRouting =>
      rw [step, opened, addDriver]
      exact .inl rfl
  | lookAtDriver i | verify i o | multiDb i | closeDriver i =>
      rw [step, onDriver]
      cases w.driver? i <;> exact .inl rfl
  | openSession i o =>
      rw [step, openSession]
      cases w.driver? i <;> exact .inl rfl
  | lookAtSession j | run j query | closeSession j =>
      rw [step, onSession]
      cases w.session? j <;> exact .inl rfl

/-- So it does whatever step is taken. -/
theorem nodup_table_step (h : w.backend.table.routers.Nodup) (s : Step) :
    (w.step s).2.backend.table.routers.Nodup := by
  obtain hsame | ⟨settings, hchanged⟩ := w.backend_step s
  · rw [hsame]
    exact h
  · rw [hchanged]
    exact Backend.nodup_table_setAll h settings

/-- **NO TABLE MENTIONS AN ADDRESS TWICE**, however often the routers are set anew. -/
theorem nodup_table_run (h : w.backend.table.routers.Nodup) (steps : List Step) :
    (w.run steps).2.backend.table.routers.Nodup := by
  induction steps generalizing w with
  | nil => exact h
  | cons s rest ih => exact ih (nodup_table_step h s)

/-- **NO ROUTER IS ASKED TWICE** by one verification, whatever has happened before. -/
theorem asks_no_router_twice (h : w.backend.table.routers.Nodup) (steps : List Step) {i : Nat}
    {d : Driver} {initial : List Address} {context : RoutingContext}
    (hdriver : (w.run steps).2.driver? i = some d)
    (hrouting : d.endpoint = .routing initial context) (o : Options) :
    ((w.run steps).2.step (.verify i o)).1.calls.Nodup := by
  have htable := nodup_table_run h steps
  rw [step, onDriver, hdriver]
  show (d.verify (w.run steps).2.backend o).calls.Nodup
  by_cases hopen : d.isOpen = true
  · cases hconfig : WorkspaceConfig.layer.consumeOver d.workspace o with
    | error fault =>
        rw [Driver.verify_of_fault hopen hrouting hconfig]
        exact List.nodup_nil
    | ok workspace =>
        rw [Driver.verify_of_config hopen hrouting hconfig, Report.calls_map,
          Verification.calls_run]
        refine htable.map ?_
        rintro a b heq
        cases heq
        rfl
  · rw [Driver.verify_of_closed (Bool.not_eq_true _ ▸ hopen)]
    exact List.nodup_nil

end World
end GraphLink
