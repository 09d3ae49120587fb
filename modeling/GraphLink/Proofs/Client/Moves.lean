import GraphLink.Proofs.Client.Calls

/-! # What steps change

    A step makes a driver or a session, closes one of either, or changes the backend, and leaves
    everything else as it is.  `Move` lists these changes and `move_step` says that there are no
    others; what is kept by every run is shown move by move.

    Two things are.  A driver stays in its slot, and once it has been closed it does not change
    (`driver?_run_of_closed`).  And slots stay told apart (`Sound`): no two drivers share a pool,
    and a session has the pool of the driver that it was asked of (`Sound.run`). -/

namespace GraphLink

-- ── Slots ──────────────────────────────────────────────────────────

section Slots

variable {α : Type} {slots : List (Option α)} {i j : Nat} {a b : α}

/-- One more slot is looked up behind the others. -/
theorem join_getElem?_concat {made : Option α} :
    ((slots ++ [made])[i]?).join = some a
      ↔ (slots[i]?).join = some a ∨ (i = slots.length ∧ made = some a) := by
  rw [List.getElem?_append]
  by_cases hlt : i < slots.length
  · rw [if_pos hlt]
    constructor
    · exact .inl
    · rintro (h | ⟨rfl, -⟩)
      · exact h
      · exact absurd hlt (Nat.lt_irrefl _)
  · have hpast : slots[i]? = none := List.getElem?_eq_none (Nat.le_of_not_lt hlt)
    rw [if_neg hlt, hpast]
    by_cases heq : i = slots.length
    · subst heq
      simp
    · have hbeyond : [made][i - slots.length]? = none :=
        List.getElem?_eq_none (by rw [List.length_singleton]; omega)
      rw [hbeyond]
      simp [heq]

/-- A slot that is filled anew hides what was in it, and no other slot. -/
theorem join_getElem?_set (h : (slots[i]?).join = some a) :
    ((slots.set i (some b))[j]?).join = if j = i then some b else (slots[j]?).join := by
  have hlt : i < slots.length := by
    rcases Nat.lt_or_ge i slots.length with hlt | hge
    · exact hlt
    · rw [List.getElem?_eq_none hge] at h
      exact nomatch h
  by_cases heq : j = i
  · subst heq
    rw [if_pos rfl, List.getElem?_set_self hlt]
    rfl
  · rw [if_neg heq, List.getElem?_set_ne (Ne.symm heq)]

end Slots

/-- The driver after it has been closed. -/
def Driver.closed (d : Driver) : Driver :=
  { d with isOpen := false }

/-- Closing a closed driver changes nothing about it. -/
theorem Driver.closed_of_closed {d : Driver} (h : d.isOpen = false) : d.closed = d := by
  rw [closed, ← h]

namespace World

/-- The world with a driver in a slot. -/
def setDriver (w : World) (i : Nat) (d : Driver) : World :=
  { w with drivers := w.drivers.set i (some d) }

/-- The world with a session in a slot. -/
def setSession (w : World) (j : Nat) (s : Session) : World :=
  { w with sessions := w.sessions.set j (some s) }

variable {w : World} {i j : Nat} {d e : Driver} {s t : Session}

/-- The drivers that there are stay in their slots, and a new one stands behind them. -/
theorem driver?_addDriver {made : Option Driver} :
    (w.addDriver made).driver? i = some e
      ↔ w.driver? i = some e ∨ (i = w.drivers.length ∧ made = some e) :=
  join_getElem?_concat

/-- The sessions that there are stay in their slots, and a new one stands behind them. -/
theorem session?_addSession {made : Option Session} :
    (w.addSession made).session? j = some t
      ↔ w.session? j = some t ∨ (j = w.sessions.length ∧ made = some t) :=
  join_getElem?_concat

theorem driver?_setDriver (h : w.driver? i = some d) (e : Driver) (j : Nat) :
    (w.setDriver i e).driver? j = if j = i then some e else w.driver? j :=
  join_getElem?_set h

theorem session?_setSession (h : w.session? j = some s) (t : Session) (k : Nat) :
    (w.setSession j t).session? k = if k = j then some t else w.session? k :=
  join_getElem?_set h

end World

-- ── Moves ──────────────────────────────────────────────────────────

/-- The slot of the driver that a step asks for a session. -/
def Step.asked? : Step → Option Nat
  | .openSession i _ => some i
  | _ => none

/-- The drivers that the sessions of a run were asked of, in the order of the sessions' slots. -/
def askedDrivers (steps : List Step) : List Nat :=
  steps.filterMap Step.asked?

/-- What a step can change. -/
inductive Move (w : World) : Step → World → Prop where
  /-- At most the backend changes. -/
  | stay {step : Step} (hasked : step.asked? = none) (backend : Backend) :
      Move w step { w with backend }
  /-- A driver with a pool of its own is made, if any. -/
  | openDriver {step : Step} {made : Option Driver} (hasked : step.asked? = none)
      (hmade : ∀ d, made = some d → d.pool = w.pools ∧ d.isOpen = true) :
      Move w step (w.addDriver made)
  /-- A session for the pool of an open driver is made, if any. -/
  | openSession {i : Nat} {o : Options} {made : Option Session}
      (hmade : ∀ s, made = some s →
        ∃ d, w.driver? i = some d ∧ d.isOpen = true ∧ s.pool = d.pool) :
      Move w (.openSession i o) (w.addSession made)
  | closeDriver {i : Nat} {d : Driver} (hdriver : w.driver? i = some d) :
      Move w (.closeDriver i) (w.setDriver i d.closed)
  | closeSession {j : Nat} {s : Session} (hsession : w.session? j = some s) :
      Move w (.closeSession j) (w.setSession j s.close)

/-- A driver that is made has the number that its pool was to have, and is open. -/
theorem Request.serve_eq_ok {request : Request} {b : Backend} {pool : Nat} {auth : AuthToken}
    {o : Options} {d : Driver} (h : (request.serve b pool auth o).answer = .ok d) :
    d.pool = pool ∧ d.isOpen = true := by
  obtain ⟨e, hrefused⟩ | ⟨endpoint, config, hadmitted⟩ := refused_or_admitted request o
  · rw [Report.answer_of_effect (effect_serve_of_refused hrefused b pool auth)] at h
    cases h
  · rw [Report.answer_of_effect (effect_serve_of_admitted hadmitted b pool auth),
      Backend.connect] at h
    cases hfault : b.openFault with
    | none =>
        rw [hfault] at h
        cases h
        exact ⟨rfl, rfl⟩
    | some fault =>
        rw [hfault] at h
        cases h

namespace World

/-- A request makes a driver with the next pool, or none. -/
theorem move_opened (w : World) {step : Step} (hasked : step.asked? = none) (request : Request)
    (auth : AuthToken) (o : Options) :
    Move w step (w.opened (request.serve w.backend w.pools auth o)).2 := by
  refine .openDriver hasked ?_
  intro d hd
  cases hanswer : (request.serve w.backend w.pools auth o).answer with
  | error e =>
      rw [hanswer] at hd
      exact nomatch hd
  | ok made =>
      rw [hanswer] at hd
      cases hd
      exact Request.serve_eq_ok hanswer

/-- A driver that is asked for a session makes one for its own pool, or none. -/
theorem move_openSession (w : World) (i : Nat) (o : Options) :
    Move w (.openSession i o) (w.step (.openSession i o)).2 := by
  rw [step, openSession]
  cases hdriver : w.driver? i with
  | none =>
      refine .openSession ?_
      intro s hs
      cases hs
  | some d =>
      refine .openSession ?_
      intro s hs
      cases hmade : d.session o with
      | error e =>
          rw [hmade] at hs
          cases hs
      | ok made =>
          rw [hmade] at hs
          cases hs
          obtain ⟨hopen, hpool, -⟩ := Driver.session_eq_ok hmade
          exact ⟨d, hdriver, hopen, hpool⟩

/-- Closing a driver changes the driver in the slot and nothing else. -/
theorem snd_step_closeDriver {w : World} {i : Nat} {d : Driver} (h : w.driver? i = some d) :
    (w.step (.closeDriver i)).2 = w.setDriver i d.closed := by
  have hclosed : (d.close w.backend).2 = d.closed := by
    rw [Driver.close]
    by_cases hopen : d.isOpen = true
    · rw [if_pos hopen]
      rfl
    · rw [if_neg hopen, Driver.closed_of_closed (Bool.not_eq_true _ ▸ hopen)]
  rw [step, onDriver, h]
  show w.setDriver i (d.close w.backend).2 = _
  rw [hclosed]

/-- Closing a driver is a move, also where there is none. -/
theorem move_closeDriver (w : World) (i : Nat) :
    Move w (.closeDriver i) (w.step (.closeDriver i)).2 := by
  cases hdriver : w.driver? i with
  | none =>
      rw [step, onDriver, hdriver]
      exact .stay rfl w.backend
  | some d =>
      rw [snd_step_closeDriver hdriver]
      exact .closeDriver hdriver

/-- Closing a session is a move, also where there is none. -/
theorem move_closeSession (w : World) (j : Nat) :
    Move w (.closeSession j) (w.step (.closeSession j)).2 := by
  rw [step, onSession]
  cases hsession : w.session? j with
  | none => exact .stay rfl w.backend
  | some s => exact .closeSession hsession

/-- **EVERY STEP IS A MOVE.** -/
theorem move_step (w : World) (s : Step) : Move w s (w.step s).2 := by
  have hstay {s : Step} {r : Outcome × World} (hasked : s.asked? = none) (h : r.2 = w) :
      Move w s r.2 := by
    rw [h]
    exact .stay hasked w.backend
  cases s with
  | openUri text auth o => exact w.move_opened rfl (.uri text) auth o
  | openDirect target auth o => exact w.move_opened rfl (.server target) auth o
  | openRouting targets context auth o => exact w.move_opened rfl (.cluster targets context) auth o
  | openSession i o => exact w.move_openSession i o
  | closeDriver i => exact w.move_closeDriver i
  | closeSession j => exact w.move_closeSession j
  | change settings => exact .stay rfl _
  | lookAtDriver i | verify i o | multiDb i =>
      refine hstay rfl ?_
      rw [step, onDriver]
      cases w.driver? i <;> rfl
  | lookAtSession j | run j query =>
      refine hstay rfl ?_
      rw [step, onSession]
      cases w.session? j <;> rfl

-- ── What is kept ───────────────────────────────────────────────────

variable {w w' : World} {s : Step} {i j : Nat}

/-- A driver stays in its slot; closing it is all that can happen to it. -/
theorem driver?_of_move {d : Driver} (hmove : Move w s w') (h : w.driver? i = some d) :
    w'.driver? i = some d ∨ (s = .closeDriver i ∧ w'.driver? i = some d.closed) := by
  cases hmove with
  | stay _ _ => exact .inl h
  | openDriver _ _ => exact .inl (driver?_addDriver.mpr (.inl h))
  | openSession _ => exact .inl h
  | closeSession _ => exact .inl h
  | @closeDriver j e hdriver =>
      rw [driver?_setDriver hdriver]
      by_cases heq : i = j
      · subst heq
        rw [hdriver] at h
        cases h
        exact .inr ⟨rfl, if_pos rfl⟩
      · exact .inl ((if_neg heq).trans h)

/-- A session stays in its slot; closing it is all that can happen to it. -/
theorem session?_of_move {t : Session} (hmove : Move w s w') (h : w.session? j = some t) :
    w'.session? j = some t ∨ (s = .closeSession j ∧ w'.session? j = some t.close) := by
  cases hmove with
  | stay _ _ => exact .inl h
  | openDriver _ _ => exact .inl h
  | closeDriver _ => exact .inl h
  | openSession _ => exact .inl (session?_addSession.mpr (.inl h))
  | @closeSession k r hsession =>
      rw [session?_setSession hsession]
      by_cases heq : j = k
      · subst heq
        rw [hsession] at h
        cases h
        exact .inr ⟨rfl, if_pos rfl⟩
      · exact .inl ((if_neg heq).trans h)

/-- A driver was there before, with the same pool, and was open if it is; or it is new, and so is
    its pool. -/
theorem driver?_before_move {e : Driver} (hmove : Move w s w') (h : w'.driver? i = some e) :
    (∃ d, w.driver? i = some d ∧ d.pool = e.pool ∧ (e.isOpen = true → d.isOpen = true))
      ∨ (i = w.drivers.length ∧ e.pool = w.pools ∧ w'.pools = w.pools + 1) := by
  cases hmove with
  | stay _ _ => exact .inl ⟨e, h, rfl, id⟩
  | openSession _ => exact .inl ⟨e, h, rfl, id⟩
  | closeSession _ => exact .inl ⟨e, h, rfl, id⟩
  | openDriver _ hmade =>
      rcases driver?_addDriver.mp h with hold | ⟨hi, rfl⟩
      · exact .inl ⟨e, hold, rfl, id⟩
      · exact .inr ⟨hi, (hmade e rfl).1, rfl⟩
  | @closeDriver j d hdriver =>
      rw [driver?_setDriver hdriver] at h
      by_cases heq : i = j
      · subst heq
        rw [if_pos rfl] at h
        cases h
        exact .inl ⟨d, hdriver, rfl, fun hopen => nomatch hopen⟩
      · rw [if_neg heq] at h
        exact .inl ⟨e, h, rfl, id⟩

/-- A session was there before, for the same pool; or it is new, and for the pool of an open
    driver that was asked for it. -/
theorem session?_before_move {t : Session} (hmove : Move w s w') (h : w'.session? j = some t) :
    (∃ s, w.session? j = some s ∧ s.pool = t.pool)
      ∨ ∃ i d, s.asked? = some i ∧ j = w.sessions.length ∧ w.driver? i = some d
          ∧ d.isOpen = true ∧ t.pool = d.pool := by
  cases hmove with
  | stay _ _ => exact .inl ⟨t, h, rfl⟩
  | openDriver _ _ => exact .inl ⟨t, h, rfl⟩
  | closeDriver _ => exact .inl ⟨t, h, rfl⟩
  | @openSession i _ _ hmade =>
      rcases session?_addSession.mp h with hold | ⟨hj, rfl⟩
      · exact .inl ⟨t, hold, rfl⟩
      · obtain ⟨d, hdriver, hopen, hpool⟩ := hmade t rfl
        exact .inr ⟨i, d, rfl, hj, hdriver, hopen, hpool⟩
  | @closeSession k old hsession =>
      rw [session?_setSession hsession] at h
      by_cases heq : j = k
      · subst heq
        rw [if_pos rfl] at h
        cases h
        exact .inl ⟨old, hsession, rfl⟩
      · rw [if_neg heq] at h
        exact .inl ⟨t, h, rfl⟩

/-- Pools are never uncounted. -/
theorem pools_le_of_move (hmove : Move w s w') : w.pools ≤ w'.pools := by
  cases hmove with
  | @openDriver _ made _ _ =>
      show w.pools ≤ if made.isSome then w.pools + 1 else w.pools
      split <;> omega
  | _ => exact Nat.le_refl _

/-- Only a step that asks for a session takes up a slot for one. -/
theorem length_sessions_of_move (hmove : Move w s w') :
    w'.sessions.length = w.sessions.length + s.asked?.toList.length := by
  cases hmove with
  | stay hasked _ | openDriver hasked _ =>
      rw [hasked]
      rfl
  | openSession _ => exact List.length_append
  | closeDriver _ => rfl
  | closeSession _ => exact List.length_set

/-- **A CLOSED DRIVER NEVER CHANGES.** -/
theorem driver?_run_of_closed {d : Driver} (h : w.driver? i = some d) (hclosed : d.isOpen = false)
    (steps : List Step) : (w.run steps).2.driver? i = some d := by
  induction steps generalizing w with
  | nil => exact h
  | cons s rest ih =>
      refine ih ?_
      obtain hsame | ⟨-, hsame⟩ := driver?_of_move (w.move_step s) h
      · exact hsame
      · rw [Driver.closed_of_closed hclosed] at hsame
        exact hsame

end World

-- ── Slots are told apart ───────────────────────────────────────────

/-- A world in which pools tell drivers apart and sessions belong to drivers; `asked` says for
    every session slot which driver it was asked of. -/
structure Sound (w : World) (asked : List Nat) : Prop where
  below : ∀ i d, w.driver? i = some d → d.pool < w.pools
  apart : ∀ i j d e, w.driver? i = some d → w.driver? j = some e → d.pool = e.pool → i = j
  slots : w.sessions.length = asked.length
  owned : ∀ j s, w.session? j = some s →
    ∃ i d, asked[j]? = some i ∧ w.driver? i = some d ∧ s.pool = d.pool

namespace Sound

variable {w w' : World} {asked : List Nat} {s : Step}

/-- At first there is nothing to be told apart. -/
theorem empty (b : Backend) : Sound { backend := b } [] where
  below := fun _ _ h => nomatch h
  apart := fun _ _ _ _ h => nomatch h
  slots := rfl
  owned := fun _ _ h => nomatch h

/-- A move keeps slots apart: a new driver has a pool that no other has, and a new session has the
    pool of the driver that it was asked of. -/
theorem move (h : Sound w asked) (hmove : Move w s w') :
    Sound w' (asked ++ s.asked?.toList) where
  below := by
    intro i e he
    obtain ⟨d, hd, hpool, -⟩ | ⟨-, hpool, hpools⟩ := World.driver?_before_move hmove he
    · rw [← hpool]
      exact Nat.lt_of_lt_of_le (h.below i d hd) (World.pools_le_of_move hmove)
    · rw [hpool, hpools]
      exact Nat.lt_succ_self _
  apart := by
    intro i j e f he hf heq
    obtain ⟨d, hd, hdpool, -⟩ | ⟨hi, hepool, -⟩ := World.driver?_before_move hmove he
    · obtain ⟨d', hd', hd'pool, -⟩ | ⟨-, hfpool, -⟩ := World.driver?_before_move hmove hf
      · exact h.apart i j d d' hd hd' (by rw [hdpool, heq, hd'pool])
      -- An old driver has a pool below the count, and a new one has the count itself.
      · have hlt := h.below i d hd
        omega
    · obtain ⟨d', hd', hd'pool, -⟩ | ⟨hj, -, -⟩ := World.driver?_before_move hmove hf
      · have hlt := h.below j d' hd'
        omega
      · rw [hi, hj]
  slots := by
    rw [World.length_sessions_of_move hmove, List.length_append, h.slots]
  owned := by
    intro j t ht
    -- No move takes a driver or its pool away.
    have hstays {i : Nat} {d : Driver} (hd : w.driver? i = some d) :
        ∃ d', w'.driver? i = some d' ∧ d'.pool = d.pool := by
      obtain hsame | ⟨-, hclosed⟩ := World.driver?_of_move hmove hd
      · exact ⟨d, hsame, rfl⟩
      · exact ⟨d.closed, hclosed, rfl⟩
    obtain ⟨s, hs, hpool⟩ | ⟨i, d, hasked, hj, hd, -, hpool⟩ :=
      World.session?_before_move hmove ht
    · obtain ⟨i, d, hi, hd, hsame⟩ := h.owned j s hs
      obtain ⟨d', hd', hd'pool⟩ := hstays hd
      refine ⟨i, d', ?_, hd', by rw [← hpool, hsame, hd'pool]⟩
      rw [List.getElem?_append_left (List.getElem?_eq_some_iff.mp hi).1]
      exact hi
    · obtain ⟨d', hd', hd'pool⟩ := hstays hd
      refine ⟨i, d', ?_, hd', by rw [hpool, hd'pool]⟩
      rw [hj, h.slots, hasked, List.getElem?_append_right (Nat.le_refl _), Nat.sub_self]
      rfl

/-- A session that has the pool of a driver was asked of that driver. -/
theorem asked_eq (h : Sound w asked) {i j : Nat} {d : Driver} {t : Session}
    (hsession : w.session? j = some t) (hdriver : w.driver? i = some d)
    (hpool : t.pool = d.pool) : asked[j]? = some i := by
  obtain ⟨k, e, hasked, he, hsame⟩ := h.owned j t hsession
  have hk : k = i := h.apart k i e d he hdriver (hsame.symm.trans hpool)
  rw [hasked, hk]

/-- **EVERY RUN IS SOUND.** -/
theorem run (h : Sound w asked) (steps : List Step) :
    Sound (w.run steps).2 (asked ++ askedDrivers steps) := by
  induction steps generalizing w asked with
  | nil =>
      rw [askedDrivers, List.filterMap_nil, List.append_nil]
      exact h
  | cons s rest ih =>
      have hrest := ih (h.move (w.move_step s))
      have hsplit : askedDrivers (s :: rest) = s.asked?.toList ++ askedDrivers rest := by
        rw [askedDrivers, List.filterMap_cons]
        cases s.asked? <;> rfl
      rw [hsplit, ← List.append_assoc]
      exact hrest

end Sound
end GraphLink
