import GraphLink.Client.World
import GraphLink.Proofs.Client.Validation

/-! # What operations call

    Which calls an operation makes, and in which order.  All use of connections goes through
    `Backend.withConnection`, so the calls of an operation that uses one have one of four shapes
    (`Lease`).  Everything else that is called is a question to a router, the closing of a pool, or
    the opening of one.

    `StepCalls` lists what one step can call, together with the open driver or session on whose
    behalf it is called; `stepCalls_step` says that there is nothing else.  What holds of the calls
    of every run is derived from it. -/

namespace GraphLink

/-- The pool that a call reaches; a call on the connector reaches none. -/
def Call.pool? : Call → Option Nat
  | .openDirect .. | .openRouting .. => none
  | .acquire pool .. | .run pool .. | .release pool | .close pool | .fetch pool .. => some pool

-- ── Reports that make calls of one kind ────────────────────────────

namespace Report

variable {α β : Type} {p : Call → Prop}

/-- Every call of the report satisfies `p`. -/
def CallsOnly (p : Call → Prop) (r : Report α) : Prop :=
  ∀ c ∈ r.calls, p c

theorem callsOnly_pure (a : α) : CallsOnly p (Pure.pure a : Report α) :=
  fun _ h => nomatch h

theorem callsOnly_fail (e : Error) : CallsOnly p (Report.fail e : Report α) :=
  fun _ h => nomatch h

theorem callsOnly_note (e : Event) : CallsOnly p (Report.note e) :=
  fun _ h => nomatch h

theorem callsOnly_ofExcept (r : Except Error α) : CallsOnly p (Report.ofExcept r) :=
  fun _ h => nomatch h

/-- A chain calls what its parts call. -/
theorem callsOnly_bind {r : Report α} {next : α → Report β} (hr : CallsOnly p r)
    (hnext : ∀ a, CallsOnly p (next a)) : CallsOnly p (r >>= next) := by
  intro c hc
  have hbind : c ∈ (r.bind next).calls := hc
  cases hanswer : r.answer with
  | error e =>
      rw [bind_of_error hanswer] at hbind
      exact hr c hbind
  | ok a =>
      rw [bind_of_ok hanswer] at hbind
      rcases List.mem_append.mp hbind with hfirst | hsecond
      · exact hr c hfirst
      · exact hnext a c hsecond

end Report

-- ── Leases ─────────────────────────────────────────────────────────

namespace Backend

/-- The call that asks for a connection on behalf of a configuration. -/
def acquireCall (pool : Nat) (mode : AccessMode) (config : SessionConfig) : Call :=
  .acquire pool mode config.database config.workspace.connectionAcquisitionTimeout

end Backend

/-- The calls of an operation that uses at most one connection: none at all; one that is not
    granted; one that is granted and given back; one that is granted, used for one query under the
    configuration and given back. -/
inductive Lease (b : Backend) (pool : Nat) (mode : AccessMode) (config : SessionConfig) :
    List Call → Prop where
  | nothing : Lease b pool mode config []
  | refused (hrefused : b.acquireError ≠ none) :
      Lease b pool mode config [Backend.acquireCall pool mode config]
  | idle (hgranted : b.acquireError = none) :
      Lease b pool mode config [Backend.acquireCall pool mode config, .release pool]
  | used (hgranted : b.acquireError = none) (query : String) :
      Lease b pool mode config
        [Backend.acquireCall pool mode config, .run pool query config, .release pool]

namespace Backend

variable {α : Type} {b : Backend} {pool : Nat} {mode : AccessMode} {config : SessionConfig}

/-- A connection is granted if there is nothing against it. -/
theorem answer_acquire_of_granted (h : b.acquireError = none) :
    (b.acquire pool mode config).answer = .ok () := by
  show outcome b.acquireError () = .ok ()
  rw [h]
  rfl

/-- Otherwise the answer is the error of the backend. -/
theorem answer_acquire_of_refused {e : Error} (h : b.acquireError = some e) :
    (b.acquire pool mode config).answer = .error e := by
  show outcome b.acquireError () = .error e
  rw [h]
  rfl

/-- **A CONNECTION IS GIVEN BACK ON EVERY PATH** on which it was granted, and on no other. -/
theorem calls_withConnection (b : Backend) (pool : Nat) (mode : AccessMode)
    (config : SessionConfig) (use : Report α) :
    (b.withConnection pool mode config use).calls
      = if b.acquireError = none then acquireCall pool mode config :: (use.calls ++ [.release pool])
        else [acquireCall pool mode config] := by
  cases h : b.acquireError with
  | none =>
      rw [withConnection, Report.bind_of_ok (answer_acquire_of_granted h), if_pos rfl]
      rfl
  | some e =>
      rw [withConnection, Report.bind_of_error (answer_acquire_of_refused h),
        if_neg (Option.some_ne_none e)]
      rfl

/-- A connection that is used for no query is asked for and given back. -/
theorem lease_of_no_query {use : Report α} (huse : use.calls = []) :
    Lease b pool mode config (b.withConnection pool mode config use).calls := by
  rw [calls_withConnection, huse]
  by_cases hgranted : b.acquireError = none
  · rw [if_pos hgranted]
    exact .idle hgranted
  · rw [if_neg hgranted]
    exact .refused hgranted

/-- A connection that is used for a query is asked for, used and given back. -/
theorem lease_of_query {use : Report α} {query : String}
    (huse : use.calls = [.run pool query config]) :
    Lease b pool mode config (b.withConnection pool mode config use).calls := by
  rw [calls_withConnection, huse]
  by_cases hgranted : b.acquireError = none
  · rw [if_pos hgranted]
    exact .used hgranted query
  · rw [if_neg hgranted]
    exact .refused hgranted

end Backend

-- ── Sessions ───────────────────────────────────────────────────────

namespace Session

variable {s : Session}

/-- A closed session runs nothing. -/
theorem run_of_closed (h : s.isOpen = false) (b : Backend) (query : String) :
    s.run b query = .fail (.session "Session is closed") := by
  rw [run, ensureOpen, if_neg (by rw [h]; exact Bool.false_ne_true)]
  rfl

/-- A session runs a query on one connection of its pool, under its own configuration. -/
theorem lease_run (b : Backend) (s : Session) (query : String) :
    Lease b s.pool s.config.defaultAccessMode s.config (s.run b query).calls := by
  by_cases hopen : s.isOpen = true
  · rw [run, ensureOpen, if_pos hopen]
    exact Backend.lease_of_query rfl
  · rw [run_of_closed (Bool.not_eq_true _ ▸ hopen)]
    exact .nothing

/-- A session asks the server what it can do on one connection, and runs no query. -/
theorem lease_supportsMultiDb (b : Backend) (s : Session) :
    Lease b s.pool .read s.config (s.supportsMultiDb b).calls := by
  rw [supportsMultiDb, ensureOpen]
  by_cases hopen : s.isOpen = true
  · rw [if_pos hopen]
    exact Backend.lease_of_no_query rfl
  · rw [if_neg hopen]
    exact .nothing

end Session

-- ── Drivers ────────────────────────────────────────────────────────

namespace Driver

variable {d : Driver} {o : Options}

/-- A closed driver says that it is closed. -/
theorem ensureOpen_of_closed (h : d.isOpen = false) :
    d.ensureOpen = .error (.session "Driver is closed") := by
  rw [ensureOpen, if_neg (by rw [h]; exact Bool.false_ne_true)]

/-- A closed driver makes no session, whatever the options. -/
theorem session_of_closed (h : d.isOpen = false) (o : Options) :
    d.session o = .error (.session "Driver is closed") := by
  rw [session, ensureOpen_of_closed h]
  rfl

/-- A session is made by an open driver, for the pool of the driver, and is open at first; its
    configuration is that of its own options on top of the driver's. -/
theorem session_eq_ok {s : Session} (h : d.session o = .ok s) :
    d.isOpen = true ∧ s.pool = d.pool ∧ s.isOpen = true
      ∧ SessionConfig.consumeOver d.workspace o = .ok s.config := by
  by_cases hopen : d.isOpen = true
  · rw [session, ensureOpen, if_pos hopen] at h
    cases hconfig : SessionConfig.consumeOver d.workspace o with
    | error fault =>
        rw [hconfig] at h
        exact nomatch h
    | ok config =>
        rw [hconfig] at h
        cases h
        exact ⟨hopen, rfl, rfl, rfl⟩
  · rw [session_of_closed (Bool.not_eq_true _ ▸ hopen)] at h
    exact nomatch h

/-- A closed driver asks no server. -/
theorem supportsMultiDb_of_closed (h : d.isOpen = false) (b : Backend) :
    d.supportsMultiDb b = .fail (.session "Driver is closed") := by
  rw [supportsMultiDb, session_of_closed h]
  rfl

/-- A closed driver verifies nothing, whatever the options. -/
theorem verify_of_closed (h : d.isOpen = false) (b : Backend) (o : Options) :
    d.verify b o = .fail (.session "Driver is closed") := by
  rw [verify]
  cases d.endpoint with
  | direct address =>
      show Connectivity.server <$> d.verifyServer b o = _
      rw [verifyServer, ensureOpen_of_closed h]
      rfl
  | routing initial context =>
      show Connectivity.routers <$> d.verifyRouters b o = _
      rw [verifyRouters, ensureOpen_of_closed h]
      rfl

/-- A driver asks the server through a session of its own, so on one connection of its pool. -/
theorem lease_supportsMultiDb (b : Backend) (d : Driver) :
    ∃ mode config, Lease b d.pool mode config (d.supportsMultiDb b).calls := by
  rw [supportsMultiDb]
  cases hsession : d.session SortedMap.empty with
  | error e => exact ⟨.read, {}, .nothing⟩
  | ok s =>
      obtain ⟨-, hpool, -⟩ := session_eq_ok hsession
      rw [← hpool]
      exact ⟨.read, s.config, s.lease_supportsMultiDb b⟩

/-- Verifying a server is one query over a session of its own. -/
theorem verifyServer_of_session {s : Session}
    (h : d.session (o.insert WorkspaceConfig.fetchSizeKey (.int (-1))) = .ok s) (b : Backend) :
    d.verifyServer b o = (s.run b verificationQuery).bind (fun result =>
      (Report.ofExcept result.single).bind (fun _ => Report.pure result.server)) := by
  obtain ⟨hopen, -⟩ := session_eq_ok h
  rw [verifyServer, ensureOpen, if_pos hopen, h]
  rfl

/-- Looking at the result calls nothing more. -/
theorem calls_verifyServer {s : Session}
    (h : d.session (o.insert WorkspaceConfig.fetchSizeKey (.int (-1))) = .ok s) (b : Backend) :
    (d.verifyServer b o).calls = (s.run b verificationQuery).calls := by
  rw [verifyServer_of_session h]
  cases hanswer : (s.run b verificationQuery).answer with
  | error e => rw [Report.bind_of_error hanswer]
  | ok result =>
      rw [Report.bind_of_ok hanswer]
      cases result.single <;> exact List.append_nil _

/-- Verifying a server takes one connection of the driver's pool. -/
theorem lease_verifyServer (b : Backend) (d : Driver) (o : Options) :
    ∃ mode config, Lease b d.pool mode config (d.verifyServer b o).calls := by
  cases hsession : d.session (o.insert WorkspaceConfig.fetchSizeKey (.int (-1))) with
  | error e =>
      refine ⟨.write, {}, ?_⟩
      rw [verifyServer, hsession]
      cases d.ensureOpen <;> exact .nothing
  | ok s =>
      obtain ⟨-, hpool, -⟩ := session_eq_ok hsession
      refine ⟨s.config.defaultAccessMode, s.config, ?_⟩
      rw [calls_verifyServer hsession, ← hpool]
      exact s.lease_run b verificationQuery

end Driver

namespace Verification

open Report

/-- Going through the results calls nothing. -/
theorem settle_callsOnly {p : Call → Prop}
    (slots : List (Address × Except Error (Option RoutingInfo))) : CallsOnly p (settle slots) := by
  induction slots with
  | nil => exact callsOnly_pure []
  | cons slot slots ih =>
      obtain ⟨router, result⟩ := slot
      have hrest : ∀ probe,
          CallsOnly p ((settle slots) >>= fun probes => Report.pure (probe :: probes)) :=
        fun probe => callsOnly_bind ih (fun probes => callsOnly_pure (probe :: probes))
      cases result with
      | ok info => exact hrest ⟨router, info⟩
      | error e =>
          rw [settle]
          split
          · exact callsOnly_bind (callsOnly_note _) (fun _ => hrest ⟨router, none⟩)
          · exact callsOnly_fail e

/-- Looking for an answer among the probes calls nothing. -/
theorem requireAnswer_callsOnly {p : Call → Prop} (probes : List Probe) :
    CallsOnly p (requireAnswer probes) := by
  rw [requireAnswer]
  split
  · exact callsOnly_bind (callsOnly_note _) (fun _ => callsOnly_fail noneError)
  · exact callsOnly_pure probes

/-- Verifying a cluster calls nothing but routers, through the pool that it is given. -/
theorem run_callsOnly {p : Call → Prop} (b : Backend) (pool : Nat) (workspace : WorkspaceConfig)
    (h : ∀ router, p (Backend.fetchCall pool workspace router)) :
    CallsOnly p (run b pool workspace) := by
  refine callsOnly_bind (callsOnly_note _) (fun _ => ?_)
  refine callsOnly_bind ?_ (fun results => ?_)
  · intro c hc
    obtain ⟨router, -, rfl⟩ := List.mem_map.mp hc
    exact h router
  · exact callsOnly_bind (settle_callsOnly results) requireAnswer_callsOnly

end Verification

/-- Whether a call is a question to a router through a pool. -/
def Call.IsFetch (pool : Nat) (c : Call) : Prop :=
  ∃ router database user bookmarks timeout, c = .fetch pool router database user bookmarks timeout

namespace Driver

open Report

/-- Verifying a cluster asks routers through the driver's pool, and calls nothing else. -/
theorem verifyRouters_callsOnly (b : Backend) (d : Driver) (o : Options) :
    CallsOnly (Call.IsFetch d.pool) (d.verifyRouters b o) := by
  refine callsOnly_bind (callsOnly_ofExcept _) (fun _ => ?_)
  refine callsOnly_bind (callsOnly_ofExcept _) (fun workspace => ?_)
  exact Verification.run_callsOnly b d.pool workspace (fun _ => ⟨_, _, _, _, _, rfl⟩)

end Driver

-- ── Opening ────────────────────────────────────────────────────────

/-- Opening a driver calls no pool, only the connector. -/
theorem Request.serve_callsOnly (request : Request) (b : Backend) (pool : Nat) (auth : AuthToken)
    (o : Options) : Report.CallsOnly (·.pool? = none) (request.serve b pool auth o) := by
  intro c hc
  obtain ⟨endpoint, config, -, rfl⟩ := admitted_of_mem_calls hc
  cases endpoint <;> rfl

-- ── Steps ──────────────────────────────────────────────────────────

namespace World

/-- What a step can call, and on whose behalf. -/
inductive StepCalls (w : World) : Step → List Call → Prop where
  | nothing {s : Step} : StepCalls w s []
  /-- The connector alone is called. -/
  | opening {s : Step} {calls : List Call} (hcalls : ∀ c ∈ calls, c.pool? = none) :
      StepCalls w s calls
  /-- A query is run on an open session. -/
  | query {j : Nat} {session : Session} {query : String} {calls : List Call}
      (hsession : w.session? j = some session) (hopen : session.isOpen = true)
      (hlease : Lease w.backend session.pool session.config.defaultAccessMode session.config
        calls) :
      StepCalls w (.run j query) calls
  /-- An open driver for one server is verified. -/
  | verifyServer {i : Nat} {d : Driver} {o : Options} {mode : AccessMode} {config : SessionConfig}
      {calls : List Call} (hdriver : w.driver? i = some d) (hopen : d.isOpen = true)
      (hlease : Lease w.backend d.pool mode config calls) : StepCalls w (.verify i o) calls
  /-- An open driver for a cluster is verified. -/
  | verifyRouters {i : Nat} {d : Driver} {o : Options} {calls : List Call}
      (hdriver : w.driver? i = some d) (hopen : d.isOpen = true)
      (hcalls : ∀ c ∈ calls, c.IsFetch d.pool) : StepCalls w (.verify i o) calls
  /-- An open driver is asked whether a server holds more than one database. -/
  | multiDb {i : Nat} {d : Driver} {mode : AccessMode} {config : SessionConfig}
      {calls : List Call} (hdriver : w.driver? i = some d) (hopen : d.isOpen = true)
      (hlease : Lease w.backend d.pool mode config calls) : StepCalls w (.multiDb i) calls
  /-- An open driver is closed. -/
  | close {i : Nat} {d : Driver} (hdriver : w.driver? i = some d) (hopen : d.isOpen = true) :
      StepCalls w (.closeDriver i) [.close d.pool]

variable {w : World}

/-- A request calls the connector alone. -/
theorem stepCalls_opened (w : World) (s : Step) (request : Request) (auth : AuthToken)
    (o : Options) :
    StepCalls w s (w.opened (request.serve w.backend w.pools auth o)).1.calls :=
  .opening (request.serve_callsOnly w.backend w.pools auth o)

/-- A query is run on behalf of the session in the slot, if it is open. -/
theorem stepCalls_run (w : World) (j : Nat) (query : String) :
    StepCalls w (.run j query) (w.step (.run j query)).1.calls := by
  rw [step, onSession]
  cases hsession : w.session? j with
  | none => exact .nothing
  | some s =>
      show StepCalls w _ (s.run w.backend query).calls
      by_cases hopen : s.isOpen = true
      · exact .query hsession hopen (s.lease_run w.backend query)
      · rw [Session.run_of_closed (Bool.not_eq_true _ ▸ hopen)]
        exact .nothing

/-- A verification is made on behalf of the driver in the slot, if it is open. -/
theorem stepCalls_verify (w : World) (i : Nat) (o : Options) :
    StepCalls w (.verify i o) (w.step (.verify i o)).1.calls := by
  rw [step, onDriver]
  cases hdriver : w.driver? i with
  | none => exact .nothing
  | some d =>
      show StepCalls w _ (d.verify w.backend o).calls
      by_cases hopen : d.isOpen = true
      · rw [Driver.verify]
        cases d.endpoint with
        | direct address =>
            obtain ⟨mode, config, hlease⟩ := d.lease_verifyServer w.backend o
            rw [← Report.calls_map Connectivity.server] at hlease
            exact .verifyServer hdriver hopen hlease
        | routing initial context =>
            have hcalls := d.verifyRouters_callsOnly w.backend o
            rw [Report.CallsOnly, ← Report.calls_map Connectivity.routers] at hcalls
            exact .verifyRouters hdriver hopen hcalls
      · rw [Driver.verify_of_closed (Bool.not_eq_true _ ▸ hopen)]
        exact .nothing

/-- The question about databases is asked on behalf of the driver in the slot, if it is open. -/
theorem stepCalls_multiDb (w : World) (i : Nat) :
    StepCalls w (.multiDb i) (w.step (.multiDb i)).1.calls := by
  rw [step, onDriver]
  cases hdriver : w.driver? i with
  | none => exact .nothing
  | some d =>
      show StepCalls w _ (d.supportsMultiDb w.backend).calls
      by_cases hopen : d.isOpen = true
      · obtain ⟨mode, config, hlease⟩ := d.lease_supportsMultiDb w.backend
        exact .multiDb hdriver hopen hlease
      · rw [Driver.supportsMultiDb_of_closed (Bool.not_eq_true _ ▸ hopen)]
        exact .nothing

/-- A pool is closed on behalf of the driver in the slot, if it is open. -/
theorem stepCalls_closeDriver (w : World) (i : Nat) :
    StepCalls w (.closeDriver i) (w.step (.closeDriver i)).1.calls := by
  rw [step, onDriver]
  cases hdriver : w.driver? i with
  | none => exact .nothing
  | some d =>
      show StepCalls w _ (d.close w.backend).1.calls
      rw [Driver.close]
      by_cases hopen : d.isOpen = true
      · rw [if_pos hopen]
        exact .close hdriver hopen
      · rw [if_neg hopen]
        exact .nothing

/-- **WHAT A STEP CALLS**: every call is made on behalf of a driver or session that is open when
    the step is taken. -/
theorem stepCalls_step (w : World) (s : Step) : StepCalls w s (w.step s).1.calls := by
  cases s with
  | openUri text auth o => exact w.stepCalls_opened _ (.uri text) auth o
  | openDirect target auth o => exact w.stepCalls_opened _ (.server target) auth o
  | openRouting targets context auth o =>
      exact w.stepCalls_opened _ (.cluster targets context) auth o
  | run j query => exact stepCalls_run w j query
  | verify i o => exact stepCalls_verify w i o
  | multiDb i => exact stepCalls_multiDb w i
  | closeDriver i => exact stepCalls_closeDriver w i
  | lookAtDriver i =>
      rw [step, onDriver]
      cases w.driver? i <;> exact .nothing
  | lookAtSession j =>
      rw [step, onSession]
      cases w.session? j <;> exact .nothing
  | openSession i o =>
      rw [step, openSession]
      cases w.driver? i <;> exact .nothing
  | closeSession j =>
      rw [step, onSession]
      cases w.session? j <;> exact .nothing
  | change settings => exact .nothing

end World
end GraphLink
