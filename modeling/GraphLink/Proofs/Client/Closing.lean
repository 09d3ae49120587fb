import GraphLink.Proofs.Client.Moves

/-! # Closing is final

    From its first close on, whatever the pool answers to it, a driver is closed: it refuses every
    operation before it looks at the options, and closing it again does nothing.  What is left of
    it are the sessions that it gave out before.

    The invariant is that a pool is `Retired`: its driver is closed, and the sessions that have it
    stand in the slots that there were at the close.  Closing a driver retires its pool
    (`retired_of_close`), every step keeps it so (`Retired.run`), and only queries on such sessions
    still reach it (`Retired.reached`).  `closing_is_final` puts this together. -/

namespace GraphLink

/-- Whether a call is about a connection of a pool: one that is asked for, used or given back. -/
def Call.IsForConnection (pool : Nat) (c : Call) : Prop :=
  (∃ mode database timeout, c = .acquire pool mode database timeout)
    ∨ (∃ query config, c = .run pool query config)
    ∨ c = .release pool

/-- Using one connection calls nothing but what is about connections. -/
theorem isForConnection_of_lease {b : Backend} {pool : Nat} {mode : AccessMode}
    {config : SessionConfig} {calls : List Call} (h : Lease b pool mode config calls) :
    ∀ c ∈ calls, c.IsForConnection pool := by
  have hacquire : (Backend.acquireCall pool mode config).IsForConnection pool :=
    .inl ⟨_, _, _, rfl⟩
  have hrelease : (Call.release pool).IsForConnection pool := .inr (.inr rfl)
  cases h with
  | nothing => exact fun _ hc => nomatch hc
  | refused _ => exact List.forall_mem_singleton.mpr hacquire
  | idle _ =>
      exact List.forall_mem_cons.mpr ⟨hacquire, List.forall_mem_singleton.mpr hrelease⟩
  | used _ query =>
      have hrun : (Call.run pool query config).IsForConnection pool := .inr (.inl ⟨_, _, rfl⟩)
      exact List.forall_mem_cons.mpr
        ⟨hacquire, List.forall_mem_cons.mpr ⟨hrun, List.forall_mem_singleton.mpr hrelease⟩⟩

/-- What is about a connection reaches the pool of the connection. -/
theorem Call.IsForConnection.pool?_eq {pool : Nat} {c : Call} (h : c.IsForConnection pool) :
    c.pool? = some pool := by
  rcases h with ⟨_, _, _, rfl⟩ | ⟨_, _, rfl⟩ | rfl <;> rfl

namespace World

/-- All calls of a run, in order. -/
def calls (w : World) (steps : List Step) : List Call :=
  (w.run steps).1.flatMap Outcome.calls

theorem calls_cons (w : World) (s : Step) (rest : List Step) :
    w.calls (s :: rest) = (w.step s).1.calls ++ (w.step s).2.calls rest :=
  rfl

/-- A run goes on where the run before it has ended. -/
theorem run_append (w : World) (before after : List Step) :
    (w.run (before ++ after)).2 = ((w.run before).2.run after).2 := by
  induction before generalizing w with
  | nil => rfl
  | cons s rest ih => exact ih (w.step s).2

-- ── A closed driver ────────────────────────────────────────────────

variable {w : World} {i : Nat} {d : Driver}

/-- What comes of a step that a closed driver refuses. -/
def driverClosed : Outcome where
  answer := .error (.failed (.session "Driver is closed"))

/-- A closed driver refuses to make a session. -/
theorem step_openSession_of_closed (h : w.driver? i = some d) (hclosed : d.isOpen = false)
    (o : Options) : (w.step (.openSession i o)).1 = driverClosed := by
  rw [step, openSession, h]
  show Outcome.ofReport (.ofExcept (d.session o)) .session = driverClosed
  rw [Driver.session_of_closed hclosed]
  rfl

/-- A closed driver refuses to be verified. -/
theorem step_verify_of_closed (h : w.driver? i = some d) (hclosed : d.isOpen = false)
    (o : Options) : (w.step (.verify i o)).1 = driverClosed := by
  rw [step, onDriver, h]
  show Outcome.ofReport (d.verify w.backend o) .connectivity = driverClosed
  rw [Driver.verify_of_closed hclosed]
  rfl

/-- A closed driver refuses to ask a server. -/
theorem step_multiDb_of_closed (h : w.driver? i = some d) (hclosed : d.isOpen = false) :
    (w.step (.multiDb i)).1 = driverClosed := by
  rw [step, onDriver, h]
  show Outcome.ofReport (d.supportsMultiDb w.backend) .flag = driverClosed
  rw [Driver.supportsMultiDb_of_closed hclosed]
  rfl

/-- Closing a closed driver succeeds and calls nothing. -/
theorem step_closeDriver_of_closed (h : w.driver? i = some d) (hclosed : d.isOpen = false) :
    (w.step (.closeDriver i)).1 = { answer := .ok .done } := by
  rw [step, onDriver, h]
  show Outcome.ofReport (d.close w.backend).1 _ = _
  rw [Driver.close, if_neg (by rw [hclosed]; exact Bool.false_ne_true)]
  rfl

/-- Closing an open driver closes its pool, and answers what the pool answers. -/
theorem step_closeDriver_of_open (h : w.driver? i = some d) (hopen : d.isOpen = true) :
    (w.step (.closeDriver i)).1
      = { answer := ((Backend.outcome w.backend.closeError Answer.done).mapError .failed)
          calls := [.close d.pool] } := by
  rw [step, onDriver, h]
  show Outcome.ofReport (d.close w.backend).1 _ = _
  rw [Driver.close, if_pos hopen]
  cases hfault : w.backend.closeError <;> rw [Backend.close, hfault] <;> rfl

end World

-- ── A retired pool ─────────────────────────────────────────────────

/-- A pool that has been opened, whose driver is closed, and whose sessions stand in the first
    slots. -/
structure Retired (w : World) (pool slots : Nat) : Prop where
  opened : pool < w.pools
  closed : ∀ i d, w.driver? i = some d → d.pool = pool → d.isOpen = false
  early : ∀ j s, w.session? j = some s → s.pool = pool → j < slots

/-- **CLOSING A DRIVER RETIRES ITS POOL.** -/
theorem retired_of_close {w : World} {asked : List Nat} {i : Nat} {d : Driver}
    (hsound : Sound w asked) (hdriver : w.driver? i = some d) :
    Retired (w.setDriver i d.closed) d.pool w.sessions.length where
  opened := hsound.below i d hdriver
  closed := by
    intro j e he hpool
    rw [World.driver?_setDriver hdriver] at he
    by_cases heq : j = i
    · rw [if_pos heq] at he
      cases he
      rfl
    · rw [if_neg heq] at he
      exact absurd (hsound.apart j i e d he hdriver hpool) heq
  early := by
    intro j s hs _
    obtain ⟨i, -, hasked, -⟩ := hsound.owned j s hs
    rw [hsound.slots]
    exact (List.getElem?_eq_some_iff.mp hasked).1

namespace Retired

variable {w w' : World} {pool slots : Nat} {s : Step}

/-- No step brings a retired pool back, or gives it a session in a later slot. -/
theorem move (h : Retired w pool slots) (hmove : Move w s w') : Retired w' pool slots where
  opened := Nat.lt_of_lt_of_le h.opened (World.pools_le_of_move hmove)
  closed := by
    intro i e he hpool
    obtain ⟨d, hd, hsame, hopen⟩ | ⟨-, hnew, -⟩ := World.driver?_before_move hmove he
    · have hclosed := h.closed i d hd (hsame.trans hpool)
      refine (Bool.not_eq_true _).mp (fun he => ?_)
      rw [hopen he] at hclosed
      exact nomatch hclosed
    · have hlt := h.opened
      omega
  early := by
    intro j t ht hpool
    obtain ⟨s, hs, hsame⟩ | ⟨i, d, -, -, hd, hopen, hsame⟩ := World.session?_before_move hmove ht
    · exact h.early j s hs (hsame.trans hpool)
    · have hclosed := h.closed i d hd (hsame.symm.trans hpool)
      rw [hopen] at hclosed
      exact nomatch hclosed

/-- **RETIREMENT IS FOR GOOD.** -/
theorem run (h : Retired w pool slots) (steps : List Step) :
    Retired (w.run steps).2 pool slots := by
  induction steps generalizing w with
  | nil => exact h
  | cons s rest ih => exact ih (h.move (w.move_step s))

/-- **ONLY QUERIES ON EARLIER SESSIONS REACH A RETIRED POOL**: what they call for their
    connections. -/
theorem reached {c : Call} (h : Retired w pool slots) (hc : c ∈ (w.step s).1.calls)
    (hpool : c.pool? = some pool) :
    ∃ j query session, s = .run j query ∧ w.session? j = some session ∧ session.isOpen = true
      ∧ session.pool = pool ∧ j < slots ∧ c.IsForConnection pool := by
  have hnot {i : Nat} {d : Driver} (hdriver : w.driver? i = some d) (hopen : d.isOpen = true) :
      d.pool ≠ pool := by
    intro heq
    rw [h.closed i d hdriver heq] at hopen
    exact nomatch hopen
  have hstep := w.stepCalls_step s
  generalize (w.step s).1.calls = calls at hstep hc
  -- Every other call is on the pool of a driver that is open, and none of these has the retired
  -- pool.
  cases hstep with
  | nothing => exact nomatch hc
  | opening hcalls => exact nomatch (hcalls c hc).symm.trans hpool
  | @query j session query _ hsession hopen hlease =>
      have hconnection := isForConnection_of_lease hlease c hc
      have heq : session.pool = pool := Option.some.inj (hconnection.pool?_eq.symm.trans hpool)
      rw [heq] at hconnection
      exact ⟨j, query, session, rfl, hsession, hopen, heq, h.early j session hsession heq,
        hconnection⟩
  | verifyServer hdriver hopen hlease | multiDb hdriver hopen hlease =>
      have hconnection := (isForConnection_of_lease hlease c hc).pool?_eq
      exact absurd (Option.some.inj (hconnection.symm.trans hpool)) (hnot hdriver hopen)
  | verifyRouters hdriver hopen hcalls =>
      obtain ⟨_, _, _, _, _, rfl⟩ := hcalls c hc
      exact absurd (Option.some.inj hpool) (hnot hdriver hopen)
  | close hdriver hopen =>
      cases List.mem_singleton.mp hc
      exact absurd (Option.some.inj hpool) (hnot hdriver hopen)

/-- A retired pool is not closed again. -/
theorem close_not_mem_step (h : Retired w pool slots) : .close pool ∉ (w.step s).1.calls := by
  intro hc
  obtain ⟨_, _, _, -, -, -, -, -, hconnection⟩ := h.reached hc rfl
  rcases hconnection with ⟨_, _, _, heq⟩ | ⟨_, _, heq⟩ | heq <;> exact nomatch heq

/-- A retired pool is not closed again, however the run goes on. -/
theorem close_not_mem (h : Retired w pool slots) (steps : List Step) :
    .close pool ∉ w.calls steps := by
  induction steps generalizing w with
  | nil => exact fun hc => nomatch hc
  | cons s rest ih =>
      rw [World.calls_cons, List.mem_append]
      rintro (hfirst | hlater)
      · exact h.close_not_mem_step hfirst
      · exact ih (h.move (w.move_step s)) hlater

end Retired

/-- A step closes no pool, or it closes the driver of the pool and calls nothing else. -/
theorem World.closes_of_step (w : World) (s : Step) (pool : Nat) :
    .close pool ∉ (w.step s).1.calls
      ∨ ∃ i d, s = .closeDriver i ∧ w.driver? i = some d ∧ d.isOpen = true ∧ d.pool = pool
          ∧ (w.step s).1.calls = [.close pool] := by
  have hlease {c : Call} {p : Nat} (h : c.IsForConnection p) : c ≠ .close pool := by
    rcases h with ⟨_, _, _, rfl⟩ | ⟨_, _, rfl⟩ | rfl <;> exact fun h => nomatch h
  have hstep := w.stepCalls_step s
  generalize (w.step s).1.calls = calls at hstep ⊢
  cases hstep with
  | nothing => exact .inl (fun hc => nomatch hc)
  | opening hcalls => exact .inl (fun hc => nomatch hcalls _ hc)
  | query _ _ hleased | verifyServer _ _ hleased | multiDb _ _ hleased =>
      exact .inl (fun hc => hlease (isForConnection_of_lease hleased _ hc) rfl)
  | verifyRouters _ _ hcalls =>
      refine .inl (fun hc => ?_)
      obtain ⟨_, _, _, _, _, heq⟩ := hcalls _ hc
      exact nomatch heq
  | @close i d hdriver hopen =>
      by_cases hpool : d.pool = pool
      · exact .inr ⟨i, d, rfl, hdriver, hopen, hpool, by rw [hpool]⟩
      · refine .inl (fun hc => hpool ?_)
        exact (Call.close.inj (List.mem_singleton.mp hc)).symm

/-- **A POOL IS CLOSED ONCE**: the first close retires it. -/
theorem World.count_close_le_one {w : World} {asked : List Nat} (h : Sound w asked)
    (steps : List Step) (pool : Nat) : (w.calls steps).count (.close pool) ≤ 1 := by
  induction steps generalizing w asked with
  | nil => exact Nat.zero_le 1
  | cons s rest ih =>
      have hmove := w.move_step s
      rw [calls_cons, List.count_append]
      obtain hnone | ⟨i, d, rfl, hdriver, hopen, rfl, hcalls⟩ := w.closes_of_step s pool
      · rw [List.count_eq_zero_of_not_mem hnone, Nat.zero_add]
        exact ih (h.move hmove)
      · have hretired : Retired (w.step (.closeDriver i)).2 d.pool w.sessions.length := by
          rw [snd_step_closeDriver hdriver]
          exact retired_of_close h hdriver
        have hnow : [Call.close d.pool].count (.close d.pool) = 1 := List.count_singleton_self
        have hlater := List.count_eq_zero_of_not_mem (hretired.close_not_mem rest)
        rw [hcalls]
        omega

-- ── Every run ──────────────────────────────────────────────────────

section AfterClose

variable {w : World} {asked : List Nat} {i : Nat} {d : Driver}

/-- A run that closes a driver goes on from where the driver is closed. -/
theorem World.run_close {start : World} {before : List Step} (h : w = (start.run before).2)
    (hdriver : w.driver? i = some d) (after : List Step) :
    (start.run (before ++ .closeDriver i :: after)).2 = ((w.setDriver i d.closed).run after).2 := by
  rw [run_append, ← h]
  show ((w.step (.closeDriver i)).2.run after).2 = _
  rw [snd_step_closeDriver hdriver]

/-- A driver that has been closed is still closed at the end of the run. -/
theorem World.driver?_after_close (hdriver : w.driver? i = some d) (after : List Step) :
    ((w.setDriver i d.closed).run after).2.driver? i = some d.closed := by
  refine driver?_run_of_closed ?_ rfl after
  rw [driver?_setDriver hdriver, if_pos rfl]

/-- Only queries on sessions that were asked of a driver before its close reach its pool. -/
theorem Sound.reached_after_close {s : Step} {c : Call} (hsound : Sound w asked)
    (hdriver : w.driver? i = some d) {after : List Step} {last : World}
    (hlast : last = ((w.setDriver i d.closed).run after).2) (hc : c ∈ (last.step s).1.calls)
    (hpool : c.pool? = some d.pool) :
    ∃ j query session, s = .run j query ∧ asked[j]? = some i ∧ last.session? j = some session
      ∧ session.isOpen = true ∧ c.IsForConnection d.pool := by
  subst hlast
  obtain ⟨j, query, session, hs, hsession, hopen, hsame, hearly, hconnection⟩ :=
    ((retired_of_close hsound hdriver).run after).reached hc hpool
  have hlater := (hsound.move (.closeDriver hdriver)).run after
  have hasked := hlater.asked_eq hsession (World.driver?_after_close hdriver after) hsame
  rw [List.append_assoc, List.getElem?_append_left (hsound.slots ▸ hearly)] at hasked
  exact ⟨j, query, session, hs, hasked, hsession, hopen, hconnection⟩

end AfterClose

/-- **CLOSING IS FINAL IN EVERY RUN.**  Every pool is closed at most once.  And whenever the driver
    in a slot is closed, the first time its pool is asked to close, and the answer is the pool's.
    However the run goes on, the driver stays closed: it refuses sessions, verification and the
    question about databases for all options and without a call, and closing it does nothing.  All
    that reaches its pool is what open sessions, asked of it before, call to run queries. -/
theorem closing_is_final (b : Backend) (steps : List Step) :
    (∀ pool, (World.calls { backend := b } steps).count (.close pool) ≤ 1)
      ∧ ∀ before i after d, steps = before ++ .closeDriver i :: after →
          ∀ w last : World, w = (World.run { backend := b } before).2 →
            last = (World.run { backend := b } steps).2 → w.driver? i = some d →
            (d.isOpen = true →
              (w.step (.closeDriver i)).1.calls = [.close d.pool]
                ∧ (w.backend.closeError = none →
                    (w.step (.closeDriver i)).1.answer = .ok .done)
                ∧ ∀ e, w.backend.closeError = some e →
                    (w.step (.closeDriver i)).1.answer = .error (.failed e))
            ∧ last.driver? i = some { d with isOpen := false }
            ∧ (∀ o, (last.step (.openSession i o)).1 = World.driverClosed)
            ∧ (∀ o, (last.step (.verify i o)).1 = World.driverClosed)
            ∧ (last.step (.multiDb i)).1 = World.driverClosed
            ∧ (last.step (.closeDriver i)).1 = { answer := .ok .done }
            ∧ ∀ s, ∀ c ∈ (last.step s).1.calls, c.pool? = some d.pool →
                ∃ j query session, s = .run j query ∧ (askedDrivers before)[j]? = some i
                  ∧ last.session? j = some session ∧ session.isOpen = true
                  ∧ c.IsForConnection d.pool := by
  refine ⟨World.count_close_le_one (Sound.empty b) steps, ?_⟩
  rintro before i after d rfl w last hw hlast hdriver
  -- The rest of the run starts from the world in which the driver has been closed.
  rw [World.run_close hw hdriver] at hlast
  have hsound : Sound w (askedDrivers before) := by
    rw [hw]
    exact (Sound.empty b).run before
  have hclosed : last.driver? i = some d.closed := by
    rw [hlast]
    exact World.driver?_after_close hdriver after
  refine ⟨?_, hclosed, ?_, ?_, ?_, ?_, ?_⟩
  · intro hopen
    rw [World.step_closeDriver_of_open hdriver hopen]
    refine ⟨rfl, ?_, ?_⟩
    · intro hsucceeds
      rw [hsucceeds]
      rfl
    · intro e hfails
      rw [hfails]
      rfl
  · exact World.step_openSession_of_closed hclosed rfl
  · exact World.step_verify_of_closed hclosed rfl
  · exact World.step_multiDb_of_closed hclosed rfl
  · exact World.step_closeDriver_of_closed hclosed rfl
  · intro s c hc hpool
    exact hsound.reached_after_close hdriver hlast hc hpool

-- Four calls reach a pool that fails to close: the first close, and what the session calls for
-- its query.
example :
    (World.calls { backend := { closeError := some (.timeout "late") } }
        [.openDirect "" .none SortedMap.empty, .openSession 0 SortedMap.empty, .closeDriver 0,
          .closeDriver 0, .multiDb 0, .verify 0 SortedMap.empty, .run 0 "q"]).filterMap Call.pool?
      = [0, 0, 0, 0] := rfl

end GraphLink
