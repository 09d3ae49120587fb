import GraphLink.Proofs.Client.Closing
import GraphLink.Proofs.Client.Posture
import Mathlib.Data.List.Induction

/-! # Where calls come from

    What a session calls can be traced back to two steps of the history: the one that asked for the
    session and the one that asked for its driver.  The pool is the one that was opened for the
    driver, and the configuration is that of the session's options on top of the driver's.  Nothing
    else that has happened since makes a difference.

    A driver is traced to the request that opened its pool (`World.opensPool_of_driver?`), a
    session to its own request and to its driver (`World.origin_of_session?`), both by induction on
    the history from its end.  `calls_trace_back` puts this together with what no step changes. -/

namespace GraphLink

-- ── What a history asks for ────────────────────────────────────────

/-- Whom a step asks to open a driver for, with which token and which options. -/
def Step.request? : Step → Option (Request × AuthToken × Options)
  | .openUri text auth o => some (.uri text, auth, o)
  | .openDirect target auth o => some (.server target, auth, o)
  | .openRouting targets context auth o => some (.cluster targets context, auth, o)
  | _ => none

/-- Which driver a step asks for a session, with which options. -/
def Step.sessionAsked? : Step → Option (Nat × Options)
  | .openSession i o => some (i, o)
  | _ => none

/-- The requests of a history, in the order of the drivers' slots. -/
def requests (history : List Step) : List (Request × AuthToken × Options) :=
  history.filterMap Step.request?

/-- The sessions that a history asks for, in the order of their slots. -/
def askedSessions (history : List Step) : List (Nat × Options) :=
  history.filterMap Step.sessionAsked?

/-- The sessions that are asked for name the drivers that they are asked of. -/
theorem map_fst_askedSessions (history : List Step) :
    (askedSessions history).map Prod.fst = askedDrivers history := by
  have hasked : (fun s : Step => s.sessionAsked?.map Prod.fst) = Step.asked? := by
    funext s
    cases s <;> rfl
  rw [askedSessions, List.map_filterMap, hasked]
  rfl

/-- Whether a call is one that has opened a pool. -/
def Call.opensPool : Call → Bool
  | .openDirect _ _ _ failed | .openRouting _ _ _ _ failed => !failed
  | _ => false

/-- A call that reaches a pool opens none. -/
theorem Call.opensPool_of_pool? {c : Call} {pool : Nat} (h : c.pool? = some pool) :
    c.opensPool = false := by
  cases c with
  | openDirect => cases h
  | openRouting => cases h
  | _ => rfl

/-- The call on the connector opens a pool unless it fails. -/
theorem Endpoint.opensPool_openCall (endpoint : Endpoint) (auth : AuthToken)
    (config : DriverConfig) (failed : Bool) :
    (endpoint.openCall auth config failed).opensPool = !failed := by
  cases endpoint <;> rfl

/-- The world after a history. -/
def World.after (b : Backend) (history : List Step) : World :=
  (World.run { backend := b } history).2

/-- `OpensPool b history i pool workspace`: the request for the driver in slot `i` was granted; the
    pool that was opened for it is the one with the number `pool`, after as many others; and its
    options come to `workspace`. -/
inductive OpensPool (b : Backend) : List Step → Nat → Nat → WorkspaceConfig → Prop where
  | intro {before after : List Step} {s : Step} {request : Request} {auth : AuthToken}
      {o : Options} {endpoint : Endpoint} {config base : DriverConfig}
      (hrequest : s.request? = some (request, auth, o))
      (hcalls : ((World.after b before).step s).1.calls = [endpoint.openCall auth config false])
      (hoptions : DriverConfig.consume o = .ok base)
      (hworkspace : config.workspace = base.workspace) :
      OpensPool b (before ++ s :: after) (requests before).length
        ((World.calls { backend := b } before).countP Call.opensPool) base.workspace

/-- What has happened stays so. -/
theorem OpensPool.append {b : Backend} {history : List Step} {i pool : Nat}
    {workspace : WorkspaceConfig} (h : OpensPool b history i pool workspace) (more : List Step) :
    OpensPool b (history ++ more) i pool workspace := by
  cases h with
  | intro hrequest hcalls hoptions hworkspace =>
      rw [List.append_assoc]
      exact .intro hrequest hcalls hoptions hworkspace

-- ── Requests ───────────────────────────────────────────────────────

/-- What a request is admitted with has the workspace of the options as they were given. -/
theorem Admitted.exists_workspace {request : Request} {o : Options} {endpoint : Endpoint}
    {config : DriverConfig} (h : Admitted request o endpoint config) :
    ∃ base, DriverConfig.consume o = .ok base ∧ config.workspace = base.workspace := by
  cases request with
  | uri text =>
      obtain ⟨u, base, -, hoptions, rfl⟩ := h.config_of_uri
      refine ⟨base, hoptions, ?_⟩
      cases u.security <;> rfl
  | server target =>
      cases h with
      | server _ hoptions => exact ⟨config, hoptions, rfl⟩
  | cluster targets context =>
      cases h with
      | cluster _ _ hoptions => exact ⟨config, hoptions, rfl⟩

/-- A request is granted with one call that opens a pool, or it fails and no pool is opened. -/
theorem Request.serve_cases (request : Request) (b : Backend) (pool : Nat) (auth : AuthToken)
    (o : Options) :
    (∃ endpoint config, Admitted request o endpoint config
        ∧ (request.serve b pool auth o).answer
            = .ok { pool, endpoint := b.connected endpoint, config }
        ∧ (request.serve b pool auth o).calls = [endpoint.openCall auth config false])
      ∨ (∃ e, (request.serve b pool auth o).answer = .error e)
        ∧ (request.serve b pool auth o).calls.countP Call.opensPool = 0 := by
  obtain ⟨e, hrefused⟩ | ⟨endpoint, config, hadmitted⟩ := refused_or_admitted request o
  · have heffect := effect_serve_of_refused hrefused b pool auth
    rw [Report.answer_of_effect heffect, Report.calls_of_effect heffect]
    exact .inr ⟨⟨e, rfl⟩, rfl⟩
  · have heffect := effect_serve_of_admitted hadmitted b pool auth
    rw [Report.answer_of_effect heffect, Report.calls_of_effect heffect, Backend.connect]
    cases b.openFault with
    | none => exact .inl ⟨endpoint, config, hadmitted, rfl, rfl⟩
    | some fault =>
        refine .inr ⟨⟨fault.toError, rfl⟩, ?_⟩
        show [endpoint.openCall auth config true].countP Call.opensPool = 0
        rw [List.countP_singleton, Endpoint.opensPool_openCall]
        rfl

-- ── Whose pool is reached ──────────────────────────────────────────

/-- Using one connection reaches its pool and no other. -/
theorem pool?_of_lease {b : Backend} {pool : Nat} {mode : AccessMode} {config : SessionConfig}
    {calls : List Call} (h : Lease b pool mode config calls) :
    ∀ c ∈ calls, c.pool? = some pool :=
  fun c hc => (isForConnection_of_lease h c hc).pool?_eq

namespace Driver

/-- Verification reaches the driver's own pool and no other. -/
theorem pool?_of_mem_verify {b : Backend} {d : Driver} {o : Options} :
    ∀ c ∈ (d.verify b o).calls, c.pool? = some d.pool := by
  rw [verify]
  cases d.endpoint with
  | direct address =>
      obtain ⟨mode, config, hcalls⟩ := d.lease_verifyServer b o
      rw [← Report.calls_map Connectivity.server] at hcalls
      exact pool?_of_lease hcalls
  | routing initial context =>
      intro c hc
      have hfetch : c ∈ (Connectivity.routers <$> d.verifyRouters b o).calls := hc
      rw [Report.calls_map] at hfetch
      obtain ⟨_, _, _, _, _, rfl⟩ := d.verifyRouters_callsOnly b o c hfetch
      rfl

/-- Closing a driver reaches its own pool and no other. -/
theorem pool?_of_mem_close {b : Backend} {d : Driver} :
    ∀ c ∈ (d.close b).1.calls, c.pool? = some d.pool := by
  rw [close]
  split
  · exact List.forall_mem_singleton.mpr rfl
  · exact List.forall_mem_nil _

end Driver

/-- What a query calls: a connection for the session's configuration, the query under it, and the
    connection's release. -/
theorem Session.mem_calls_run {b : Backend} {t : Session} {query : String} {c : Call}
    (h : c ∈ (t.run b query).calls) :
    c = Backend.acquireCall t.pool t.config.defaultAccessMode t.config
      ∨ c = .run t.pool query t.config ∨ c = .release t.pool := by
  by_cases hopen : t.isOpen = true
  · rw [run, ensureOpen, if_pos hopen] at h
    have hcalls : c ∈ (b.withConnection t.pool t.config.defaultAccessMode t.config
        (b.run t.pool query t.config)).calls := h
    rw [Backend.calls_withConnection] at hcalls
    split at hcalls
    · rcases List.mem_cons.mp hcalls with rfl | hrest
      · exact .inl rfl
      · rcases List.mem_cons.mp hrest with rfl | hlast
        · exact .inr (.inl rfl)
        · exact .inr (.inr (List.mem_singleton.mp hlast))
    · exact .inl (List.mem_singleton.mp hcalls)
  · rw [run_of_closed (Bool.not_eq_true _ ▸ hopen)] at h
    cases h

-- ── One step ───────────────────────────────────────────────────────

theorem eq_ok_of_toOption {ε α : Type} {r : Except ε α} {a : α} (h : r.toOption = some a) :
    r = .ok a := by
  cases r with
  | error e => cases h
  | ok made =>
      cases h
      rfl

namespace World

variable {w : World} {s : Step} {i j : Nat}

/-- A step with a request serves it, for the next pool. -/
theorem step_of_request {request : Request} {auth : AuthToken} {o : Options}
    (h : s.request? = some (request, auth, o)) :
    w.step s = w.opened (request.serve w.backend w.pools auth o) := by
  cases s with
  | openUri | openDirect | openRouting =>
      cases h
      rfl
  | _ => cases h

/-- All that a step without a request can do to drivers is to close one. -/
theorem drivers_step_of_no_request (h : s.request? = none) :
    ((w.step s).2.drivers = w.drivers ∧ (w.step s).2.pools = w.pools)
      ∨ ∃ i d, w.driver? i = some d ∧ (w.step s).2 = w.setDriver i d.closed := by
  cases s with
  | openUri | openDirect | openRouting => cases h
  | closeDriver i =>
      cases hdriver : w.driver? i with
      | none =>
          rw [step, onDriver, hdriver]
          exact .inl ⟨rfl, rfl⟩
      | some d => exact .inr ⟨i, d, hdriver, snd_step_closeDriver hdriver⟩
  | lookAtDriver i | verify i o | multiDb i =>
      rw [step, onDriver]
      cases w.driver? i <;> exact .inl ⟨rfl, rfl⟩
  | openSession i o =>
      rw [step, openSession]
      cases w.driver? i <;> exact .inl ⟨rfl, rfl⟩
  | lookAtSession j | run j query | closeSession j =>
      rw [step, onSession]
      cases w.session? j <;> exact .inl ⟨rfl, rfl⟩
  | change settings => exact .inl ⟨rfl, rfl⟩

/-- A step without a request reaches pools that there are, and no connector. -/
theorem pool?_of_no_request (h : s.request? = none) :
    ∀ c ∈ (w.step s).1.calls, ∃ pool, c.pool? = some pool := by
  -- A step that finds nothing in its slot calls nothing; any other reaches the pool it finds there.
  have hnothing : ∀ c ∈ ([] : List Call), ∃ pool, c.pool? = some pool := List.forall_mem_nil _
  cases s with
  | openUri | openDirect | openRouting => cases h
  | change settings => exact hnothing
  | lookAtDriver i =>
      rw [step, onDriver]
      cases w.driver? i <;> exact hnothing
  | lookAtSession j | closeSession j =>
      rw [step, onSession]
      cases w.session? j <;> exact hnothing
  | openSession i o =>
      rw [step, openSession]
      cases w.driver? i <;> exact hnothing
  | run j query =>
      rw [step, onSession]
      cases w.session? j with
      | none => exact hnothing
      | some t => exact fun c hc => ⟨t.pool, pool?_of_lease (t.lease_run w.backend query) c hc⟩
  | multiDb i =>
      rw [step, onDriver]
      cases w.driver? i with
      | none => exact hnothing
      | some d =>
          obtain ⟨mode, config, hcalls⟩ := d.lease_supportsMultiDb w.backend
          exact fun c hc => ⟨d.pool, pool?_of_lease hcalls c hc⟩
  | closeDriver i =>
      rw [step, onDriver]
      cases w.driver? i with
      | none => exact hnothing
      | some d => exact fun c hc => ⟨d.pool, Driver.pool?_of_mem_close c hc⟩
  | verify i o =>
      rw [step, onDriver]
      cases w.driver? i with
      | none => exact hnothing
      | some d => exact fun c hc => ⟨d.pool, Driver.pool?_of_mem_verify c hc⟩

/-- **POOLS ARE COUNTED AS THEY ARE OPENED.** -/
theorem pools_step (w : World) (s : Step) :
    (w.step s).2.pools = w.pools + (w.step s).1.calls.countP Call.opensPool := by
  cases hrequest : s.request? with
  | none =>
      -- Without a request there is nothing to count, and the counter stays.
      have hcount : (w.step s).1.calls.countP Call.opensPool = 0 := by
        refine List.countP_eq_zero.mpr ?_
        intro c hc
        obtain ⟨pool, hpool⟩ := pool?_of_no_request hrequest c hc
        rw [Call.opensPool_of_pool? hpool]
        exact Bool.false_ne_true
      rw [hcount]
      obtain ⟨-, hpools⟩ | ⟨i, d, -, hclosed⟩ := drivers_step_of_no_request (w := w) hrequest
      · exact hpools
      · rw [hclosed]
        rfl
  | some p =>
      obtain ⟨request, auth, o⟩ := p
      rw [step_of_request hrequest]
      show (w.addDriver _).pools = w.pools
        + (request.serve w.backend w.pools auth o).calls.countP Call.opensPool
      obtain ⟨endpoint, config, -, hanswer, hcalls⟩ | ⟨⟨e, hanswer⟩, hcalls⟩ :=
        request.serve_cases w.backend w.pools auth o
      · rw [hanswer, hcalls, List.countP_singleton, Endpoint.opensPool_openCall]
        rfl
      · rw [hanswer, hcalls]
        rfl

/-- Only a step with a request takes up a slot for a driver. -/
theorem length_drivers_step (w : World) (s : Step) :
    (w.step s).2.drivers.length = w.drivers.length + s.request?.toList.length := by
  cases hrequest : s.request? with
  | none =>
      obtain ⟨hdrivers, -⟩ | ⟨i, d, -, hclosed⟩ := drivers_step_of_no_request (w := w) hrequest
      · rw [hdrivers]
        rfl
      · rw [hclosed]
        exact List.length_set
  | some p =>
      rw [step_of_request hrequest]
      exact List.length_append

/-- A driver was there before, with the same pool and configuration, unless it is new. -/
theorem driver?_before_step {e : Driver} (hrequest : s.request? = none)
    (h : (w.step s).2.driver? i = some e) :
    ∃ d, w.driver? i = some d ∧ d.pool = e.pool ∧ d.config = e.config := by
  obtain ⟨hdrivers, -⟩ | ⟨k, d, hdriver, hclosed⟩ := drivers_step_of_no_request (w := w) hrequest
  · rw [driver?, hdrivers] at h
    exact ⟨e, h, rfl, rfl⟩
  · rw [hclosed, driver?_setDriver hdriver] at h
    by_cases heq : i = k
    · rw [if_pos heq] at h
      cases h
      exact ⟨d, heq ▸ hdriver, rfl, rfl⟩
    · rw [if_neg heq] at h
      exact ⟨e, h, rfl, rfl⟩

/-- After a session was to be made, every session was there before or is the one that the driver
    has made. -/
theorem session?_before_openSession {o : Options} {t : Session}
    (h : (w.step (.openSession i o)).2.session? j = some t) :
    w.session? j = some t
      ∨ j = w.sessions.length ∧ ∃ d, w.driver? i = some d ∧ d.session o = .ok t := by
  rw [step, openSession] at h
  cases hdriver : w.driver? i with
  | none =>
      rw [hdriver] at h
      rcases session?_addSession.mp h with hold | ⟨-, hnone⟩
      · exact .inl hold
      · cases hnone
  | some d =>
      rw [hdriver] at h
      rcases session?_addSession.mp h with hold | ⟨hj, hmade⟩
      · exact .inl hold
      · exact .inr ⟨hj, d, rfl, eq_ok_of_toOption hmade⟩

/-- A session was there before, with the same pool and configuration, unless it is new. -/
theorem session?_before_step {t : Session} (hasked : s.sessionAsked? = none)
    (h : (w.step s).2.session? j = some t) :
    ∃ r, w.session? j = some r ∧ r.pool = t.pool ∧ r.config = t.config := by
  have hmove := w.move_step s
  generalize (w.step s).2 = w' at hmove h
  cases hmove with
  | stay _ _ => exact ⟨t, h, rfl, rfl⟩
  | openDriver _ _ => exact ⟨t, h, rfl, rfl⟩
  | closeDriver _ => exact ⟨t, h, rfl, rfl⟩
  | openSession _ => cases hasked
  | @closeSession k r hsession =>
      rw [session?_setSession hsession] at h
      by_cases heq : j = k
      · rw [if_pos heq] at h
        cases h
        exact ⟨r, heq ▸ hsession, rfl, rfl⟩
      · rw [if_neg heq] at h
        exact ⟨t, h, rfl, rfl⟩

-- ── Whole histories ────────────────────────────────────────────────

/-- One more step is taken in the world that the history has led to. -/
theorem after_concat (b : Backend) (history : List Step) (s : Step) :
    after b (history ++ [s]) = ((after b history).step s).2 := by
  rw [after, run_append]
  rfl

/-- A run calls what its first part calls, and then what the rest calls from there. -/
theorem calls_append (w : World) (before after : List Step) :
    w.calls (before ++ after) = w.calls before ++ (w.run before).2.calls after := by
  induction before generalizing w with
  | nil => rfl
  | cons s rest ih =>
      rw [List.cons_append, calls_cons, calls_cons, ih, List.append_assoc]
      rfl

/-- What a run calls is what its steps call, each in the world that the steps before it left. -/
theorem mem_calls_iff {w : World} {steps : List Step} {c : Call} :
    c ∈ w.calls steps ↔ ∃ before s after, steps = before ++ s :: after
      ∧ c ∈ ((w.run before).2.step s).1.calls := by
  constructor
  · intro h
    induction steps generalizing w with
    | nil => cases h
    | cons s rest ih =>
        rw [calls_cons, List.mem_append] at h
        rcases h with hfirst | hlater
        · exact ⟨[], s, rest, rfl, hfirst⟩
        · obtain ⟨before, t, after, rfl, hc⟩ := ih hlater
          exact ⟨s :: before, t, after, rfl, hc⟩
  · rintro ⟨before, s, after, rfl, hc⟩
    rw [calls_append, calls_cons]
    exact List.mem_append_right _ (List.mem_append_left _ hc)

theorem calls_concat (b : Backend) (history : List Step) (s : Step) :
    World.calls { backend := b } (history ++ [s])
      = World.calls { backend := b } history ++ ((after b history).step s).1.calls := by
  rw [calls_append]
  exact congrArg (World.calls { backend := b } history ++ ·) (List.append_nil _)

/-- The pools of a world are those that the calls of the history have opened. -/
theorem pools_after (b : Backend) (history : List Step) :
    (after b history).pools = (World.calls { backend := b } history).countP Call.opensPool := by
  induction history using List.reverseRecOn with
  | nil => rfl
  | append_singleton history s ih =>
      rw [after_concat, pools_step, ih, calls_concat, List.countP_append]

/-- There are as many slots for drivers as requests for them. -/
theorem length_drivers_after (b : Backend) (history : List Step) :
    (after b history).drivers.length = (requests history).length := by
  induction history using List.reverseRecOn with
  | nil => rfl
  | append_singleton history s ih =>
      rw [after_concat, length_drivers_step, ih, requests, requests, List.filterMap_append,
        List.length_append]
      cases hrequest : s.request? <;> simp [hrequest]

/-- There are as many slots for sessions as requests for them. -/
theorem length_sessions_after (b : Backend) (history : List Step) :
    (after b history).sessions.length = (askedSessions history).length := by
  have hslots := ((Sound.empty b).run history).slots
  rw [List.nil_append, ← map_fst_askedSessions, List.length_map] at hslots
  exact hslots

/-- A new driver is the one whose pool the last step has opened. -/
theorem opensPool_of_opened {b : Backend} {history : List Step} {request : Request}
    {auth : AuthToken} {o : Options} {d : Driver} (hrequest : s.request? = some (request, auth, o))
    (hanswer : (request.serve (after b history).backend (after b history).pools auth o).answer
      = .ok d) :
    OpensPool b (history ++ [s]) (requests history).length d.pool d.workspace := by
  obtain ⟨endpoint, config, hadmitted, hmade, hcalls⟩ | ⟨⟨e, hfails⟩, -⟩ :=
    request.serve_cases (after b history).backend (after b history).pools auth o
  · rw [hmade] at hanswer
    cases hanswer
    obtain ⟨base, hoptions, hworkspace⟩ := hadmitted.exists_workspace
    have hcalls : ((after b history).step s).1.calls = [endpoint.openCall auth config false] := by
      rw [step_of_request hrequest]
      exact hcalls
    rw [Driver.workspace, hworkspace, pools_after]
    exact .intro hrequest hcalls hoptions hworkspace
  · rw [hfails] at hanswer
    cases hanswer

/-- **EVERY DRIVER COMES FROM THE REQUEST OF ITS SLOT**, with the pool that was opened for it and
    the workspace of its options. -/
theorem opensPool_of_driver? {b : Backend} {history : List Step} {d : Driver}
    (h : (after b history).driver? i = some d) : OpensPool b history i d.pool d.workspace := by
  -- From the end: a new driver is explained by the last step, and all others were there before it.
  induction history using List.reverseRecOn generalizing d with
  | nil => cases h
  | append_singleton history s ih =>
      rw [after_concat] at h
      cases hrequest : s.request? with
      | none =>
          obtain ⟨old, hold, hpool, hconfig⟩ := driver?_before_step hrequest h
          have horigin := (ih hold).append [s]
          rw [hpool, Driver.workspace, hconfig] at horigin
          exact horigin
      | some p =>
          obtain ⟨request, auth, o⟩ := p
          rw [step_of_request hrequest] at h
          rcases driver?_addDriver.mp h with hold | ⟨rfl, hmade⟩
          · exact (ih hold).append [s]
          · rw [length_drivers_after]
            exact opensPool_of_opened hrequest (eq_ok_of_toOption hmade)

end World

-- ── Sessions ───────────────────────────────────────────────────────

/-- `SessionOrigin b history j pool config`: the session in slot `j` was asked of a driver whose
    pool is `pool`, and `config` is what its options come to on top of the workspace of the
    driver's. -/
def SessionOrigin (b : Backend) (history : List Step) (j pool : Nat) (config : SessionConfig) :
    Prop :=
  ∃ i o workspace, (askedSessions history)[j]? = some (i, o)
    ∧ OpensPool b history i pool workspace ∧ SessionConfig.consumeOver workspace o = .ok config

/-- Where a session comes from does not change later on. -/
theorem SessionOrigin.append {b : Backend} {history : List Step} {j pool : Nat}
    {config : SessionConfig} (h : SessionOrigin b history j pool config) (more : List Step) :
    SessionOrigin b (history ++ more) j pool config := by
  obtain ⟨i, o, workspace, hasked, hopens, hconfig⟩ := h
  refine ⟨i, o, workspace, ?_, hopens.append more, hconfig⟩
  rw [askedSessions, List.filterMap_append]
  exact (List.getElem?_append_left (List.getElem?_eq_some_iff.mp hasked).1).trans hasked

/-- **EVERY SESSION COMES FROM THE REQUEST OF ITS SLOT**, and from that of its driver. -/
theorem World.origin_of_session? {b : Backend} {history : List Step} {j : Nat} {t : Session}
    (h : (after b history).session? j = some t) : SessionOrigin b history j t.pool t.config := by
  induction history using List.reverseRecOn generalizing t with
  | nil => cases h
  | append_singleton history s ih =>
      rw [after_concat] at h
      cases hasked : s.sessionAsked? with
      | none =>
          obtain ⟨old, hold, hpool, hconfig⟩ := session?_before_step hasked h
          rw [← hpool, ← hconfig]
          exact (ih hold).append [s]
      | some p =>
          obtain ⟨i, o⟩ := p
          obtain rfl : s = .openSession i o := by
            cases s with
            | openSession => cases hasked; rfl
            | _ => cases hasked
          obtain hold | ⟨rfl, d, hdriver, hmade⟩ := session?_before_openSession h
          · exact (ih hold).append _
          · obtain ⟨-, hpool, -, hconfig⟩ := Driver.session_eq_ok hmade
            refine ⟨i, o, d.workspace, ?_, ?_, hconfig⟩
            · rw [length_sessions_after, askedSessions, List.filterMap_append]
              exact List.getElem?_concat_length
            · rw [hpool]
              exact (opensPool_of_driver? hdriver).append _

/-- What running a query calls is called for the session in the slot. -/
theorem World.mem_calls_run {w : World} {j : Nat} {query : String} {c : Call}
    (h : c ∈ (w.step (.run j query)).1.calls) :
    ∃ t, w.session? j = some t ∧ c ∈ (t.run w.backend query).calls := by
  rw [step, onSession] at h
  cases hsession : w.session? j with
  | none =>
      rw [hsession] at h
      cases h
  | some t =>
      rw [hsession] at h
      exact ⟨t, rfl, h⟩

-- ── Drivers over time ──────────────────────────────────────────────

/-- What looking at a driver reports is the driver in the slot. -/
theorem World.answer_lookAtDriver {w : World} {i : Nat} {d : Driver} :
    (w.step (.lookAtDriver i)).1.answer = .ok (.driver d) ↔ w.driver? i = some d := by
  rw [step, onDriver]
  cases w.driver? i with
  | none =>
      constructor <;>
        · intro h
          cases h
  | some e =>
      constructor
      · intro h
        cases h
        rfl
      · intro h
        cases h
        rfl

/-- All that ever changes about a driver is whether it is open. -/
theorem World.driver?_run {w : World} {i : Nat} {d : Driver} (h : w.driver? i = some d)
    (steps : List Step) : ∃ isOpen, (w.run steps).2.driver? i = some { d with isOpen } := by
  induction steps generalizing w d with
  | nil => exact ⟨d.isOpen, h⟩
  | cons s rest ih =>
      rcases driver?_of_move (w.move_step s) h with hsame | ⟨-, hclosed⟩
      · exact ih hsame
      · obtain ⟨isOpen, hlater⟩ := ih hclosed
        exact ⟨isOpen, hlater⟩

/-- **CALLS TRACE BACK TO THE REQUESTS OF THE HISTORY.**  Whatever has happened, what a query on a
    session calls reaches the pool that was opened for the session's driver, under the
    configuration of the session's options on top of the workspace of the driver's.  What a driver
    reports of itself does not change as the history goes on, but for whether it is open.  And no
    step changes a driver or a session but the one that closes it. -/
theorem calls_trace_back (b : Backend) (history : List Step) :
    (∀ j query, ∀ c ∈ ((World.after b history).step (.run j query)).1.calls,
        ∃ pool config, SessionOrigin b history j pool config
          ∧ (c = .acquire pool config.defaultAccessMode config.workspace.database
                config.workspace.connectionAcquisitionTimeout
              ∨ c = .run pool query config ∨ c = .release pool))
      ∧ (∀ i d, ((World.after b history).step (.lookAtDriver i)).1.answer = .ok (.driver d) →
          OpensPool b history i d.pool d.config.workspace
            ∧ ∀ more, ∃ isOpen,
                ((World.after b (history ++ more)).step (.lookAtDriver i)).1.answer
                  = .ok (.driver { d with isOpen }))
      ∧ (∀ s i d, s ≠ .closeDriver i → (World.after b history).driver? i = some d →
          (World.after b (history ++ [s])).driver? i = some d)
      ∧ ∀ s j t, s ≠ .closeSession j → (World.after b history).session? j = some t →
          (World.after b (history ++ [s])).session? j = some t := by
  refine ⟨?_, ?_, ?_, ?_⟩
  · intro j query c hc
    obtain ⟨t, hsession, hrun⟩ := World.mem_calls_run hc
    exact ⟨t.pool, t.config, World.origin_of_session? hsession, Session.mem_calls_run hrun⟩
  · intro i d hlook
    have hdriver := World.answer_lookAtDriver.mp hlook
    -- The origin is read off the history; what comes later changes the flag alone.
    refine ⟨World.opensPool_of_driver? hdriver, ?_⟩
    intro more
    obtain ⟨isOpen, hlater⟩ := World.driver?_run hdriver more
    refine ⟨isOpen, World.answer_lookAtDriver.mpr ?_⟩
    rw [World.after, World.run_append]
    exact hlater
  · intro s i d hne hdriver
    rw [World.after_concat]
    rcases World.driver?_of_move (World.move_step _ s) hdriver with hsame | ⟨hclose, -⟩
    · exact hsame
    · exact absurd hclose hne
  · intro s j t hne hsession
    rw [World.after_concat]
    rcases World.session?_of_move (World.move_step _ s) hsession with hsame | ⟨hclose, -⟩
    · exact hsame
    · exact absurd hclose hne

-- The second session is one of the first driver, and the other driver makes no difference to it.
example :
    ((World.after {} [.openDirect "a" .none (SortedMap.ofList [("database", .string "x")]),
        .openDirect "b" .none SortedMap.empty, .openSession 1 SortedMap.empty,
        .openSession 0 (SortedMap.ofList [("fetch_size", .int 5)]),
        .closeDriver 1]).step (.run 1 "q")).1.calls
      = [.acquire 0 .write (some "x") (.seconds 60),
          .run 0 "q" { workspace := { database := some "x", fetchSize := 5 } }, .release 0] :=
  rfl

end GraphLink
