import GraphLink.Proofs.Client.Calls

/-! # Connections are given back

    Over a whole run, connections are neither kept nor given back twice, whatever fails and however
    the operations on drivers and sessions interleave.  The calls of a run are looked at as one
    sequence of **dealings**: what each call means for the connections of its pool, where the
    backend of the moment tells a connection that is granted from one that is refused.

    The invariant is a grammar (`Settled`): the dealings with one connection stand together, it is
    used at most once in between, and nothing else is used or given back.  A step adds a settled
    sequence (`settled_step`), so every run is settled (`settled_dealings`), and what
    `connections_settle` says of a run is read off the grammar. -/

namespace GraphLink

/-- What a call means for the connections of a pool. -/
inductive Dealing where
  /-- A connection was asked for and granted. -/
  | granted (pool : Nat)
  /-- A connection was asked for and not granted. -/
  | refused (pool : Nat)
  /-- A query was sent on a connection. -/
  | used (pool : Nat)
  /-- A connection was given back. -/
  | released (pool : Nat)
  /-- Nothing. -/
  | aside
  deriving DecidableEq

/-- What a call that is answered by a backend means. -/
def Backend.dealing (b : Backend) : Call → Dealing
  | .acquire pool .. => if b.acquireError = none then .granted pool else .refused pool
  | .run pool .. => .used pool
  | .release pool => .released pool
  | _ => .aside

/-- What the calls of a run mean, in order. -/
def World.dealings (w : World) : List Step → List Dealing
  | [] => []
  | s :: rest => (w.step s).1.calls.map w.backend.dealing ++ World.dealings (w.step s).2 rest

-- ── The grammar ────────────────────────────────────────────────────

/-- Dealings in which those with one connection stand together: it is asked for, and if it is
    granted it is used for at most one query and given back.  Nothing else is used or given
    back. -/
inductive Settled : List Dealing → Prop where
  | nil : Settled []
  | aside {rest : List Dealing} (hrest : Settled rest) : Settled (.aside :: rest)
  | refused {pool : Nat} {rest : List Dealing} (hrest : Settled rest) :
      Settled (.refused pool :: rest)
  | idle {pool : Nat} {rest : List Dealing} (hrest : Settled rest) :
      Settled (.granted pool :: .released pool :: rest)
  | used {pool : Nat} {rest : List Dealing} (hrest : Settled rest) :
      Settled (.granted pool :: .used pool :: .released pool :: rest)

/-- Dealings that are settled may stand one behind the other. -/
theorem Settled.append {xs ys : List Dealing} (hxs : Settled xs) (hys : Settled ys) :
    Settled (xs ++ ys) := by
  induction hxs with
  | nil => exact hys
  | aside _ ih => exact .aside ih
  | refused _ ih => exact .refused ih
  | idle _ ih => exact .idle ih
  | used _ ih => exact .used ih

/-- Where no call is about a connection, nothing is left to settle. -/
theorem settled_of_forall {xs : List Dealing} (h : ∀ x ∈ xs, x = .aside) : Settled xs := by
  induction xs with
  | nil => exact .nil
  | cons x xs ih =>
      rw [h x List.mem_cons_self]
      exact .aside (ih (fun y hy => h y (List.mem_cons_of_mem x hy)))

/-- What is called for one connection is settled. -/
theorem settled_of_lease {b : Backend} {pool : Nat} {mode : AccessMode} {config : SessionConfig}
    {calls : List Call} (h : Lease b pool mode config calls) : Settled (calls.map b.dealing) := by
  have hgranted (hnone : b.acquireError = none) :
      b.dealing (Backend.acquireCall pool mode config) = .granted pool := if_pos hnone
  cases h with
  | nothing => exact .nil
  | refused hsome =>
      have hrefused : b.dealing (Backend.acquireCall pool mode config) = .refused pool :=
        if_neg hsome
      rw [List.map_singleton, hrefused]
      exact .refused .nil
  | idle hnone =>
      rw [List.map_cons, hgranted hnone]
      exact .idle .nil
  | used hnone query =>
      rw [List.map_cons, hgranted hnone]
      exact .used .nil

/-- **A STEP SETTLES WHAT IT ASKS FOR**, whatever it does and whatever fails. -/
theorem settled_step (w : World) (s : Step) :
    Settled ((w.step s).1.calls.map w.backend.dealing) := by
  have haside {calls : List Call} (h : ∀ c ∈ calls, w.backend.dealing c = .aside) :
      Settled (calls.map w.backend.dealing) := by
    refine settled_of_forall (fun x hx => ?_)
    obtain ⟨c, hc, rfl⟩ := List.mem_map.mp hx
    exact h c hc
  have hstep := w.stepCalls_step s
  generalize (w.step s).1.calls = calls at hstep ⊢
  cases hstep with
  | nothing => exact .nil
  | opening hcalls =>
      refine haside (fun c hc => ?_)
      have hpool := hcalls c hc
      cases c with
      | openDirect | openRouting => rfl
      | _ => exact nomatch hpool
  | query _ _ hlease => exact settled_of_lease hlease
  | verifyServer _ _ hlease => exact settled_of_lease hlease
  | verifyRouters _ _ hcalls =>
      refine haside (fun c hc => ?_)
      obtain ⟨_, _, _, _, _, rfl⟩ := hcalls c hc
      rfl
  | multiDb _ _ hlease => exact settled_of_lease hlease
  | close _ _ => exact .aside .nil

/-- **EVERY RUN IS SETTLED.** -/
theorem settled_dealings (w : World) (steps : List Step) : Settled (w.dealings steps) := by
  induction steps generalizing w with
  | nil => exact .nil
  | cons s rest ih => exact (settled_step w s).append (ih (w.step s).2)

-- ── Reading the grammar ────────────────────────────────────────────

namespace Settled

variable {pool : Nat} {xs before after : List Dealing}

/-- As many connections are given back as are granted. -/
theorem count_granted (h : Settled xs) (pool : Nat) :
    xs.count (.granted pool) = xs.count (.released pool) := by
  induction h with
  | nil => rfl
  | aside _ ih => simp [ih]
  | refused _ ih => simp [ih]
  | idle _ ih => simp [List.count_cons, ih]
  | used _ ih => simp [List.count_cons, ih]

/-- What the grammar says of a dealing at its place: a query stands right between a granted
    connection and its release; a release stands behind a granted connection, with at most its
    query in between; what stands behind a refusal is settled on its own. -/
def Fits (before : List Dealing) (x : Dealing) (after : List Dealing) : Prop :=
  match x with
  | .used pool =>
      ∃ front back, before = front ++ [.granted pool] ∧ after = .released pool :: back
  | .released pool =>
      ∃ front, before = front ++ [.granted pool] ∨ before = front ++ [.granted pool, .used pool]
  | .refused _ => Settled after
  | .granted _ | .aside => True

/-- What stands further ahead makes no difference to what fits. -/
theorem Fits.cons {x : Dealing} (h : Fits before x after) (y : Dealing) :
    Fits (y :: before) x after := by
  cases x with
  | used pool =>
      obtain ⟨front, back, rfl, hafter⟩ := h
      exact ⟨y :: front, back, rfl, hafter⟩
  | released pool =>
      obtain ⟨front, rfl | rfl⟩ := h
      · exact ⟨y :: front, .inl rfl⟩
      · exact ⟨y :: front, .inr rfl⟩
  | refused pool => exact h
  | granted pool => trivial
  | aside => trivial

/-- **EVERY DEALING FITS**: the dealing is one of the first group, or stands in the rest. -/
theorem fits {x : Dealing} (h : Settled xs) (hxs : xs = before ++ x :: after) :
    Fits before x after := by
  -- The induction is on the groups: the dealing is in the first one, at any of its places, or the
  -- dealings of that group stand in front of a rest that it fits into.
  induction h generalizing before with
  | nil => exact absurd hxs (by simp)
  | aside _ ih =>
      rcases before with _ | ⟨y, before⟩
      · cases hxs
        trivial
      · exact (ih (List.cons.inj hxs).2).cons y
  | refused hrest ih =>
      rcases before with _ | ⟨y, before⟩
      · cases hxs
        exact hrest
      · exact (ih (List.cons.inj hxs).2).cons y
  | idle _ ih =>
      rcases before with _ | ⟨y, _ | ⟨z, before⟩⟩
      · cases hxs
        trivial
      · cases hxs
        exact ⟨[], .inl rfl⟩
      · exact ((ih (List.cons.inj (List.cons.inj hxs).2).2).cons z).cons y
  | used _ ih =>
      rcases before with _ | ⟨y, _ | ⟨z, _ | ⟨u, before⟩⟩⟩
      · cases hxs
        trivial
      · cases hxs
        exact ⟨[], _, rfl, rfl⟩
      · cases hxs
        exact ⟨[], .inr rfl⟩
      · have hrest := (List.cons.inj (List.cons.inj (List.cons.inj hxs).2).2).2
        exact (((ih hrest).cons u).cons z).cons y

/-- Nothing is used or given back before it is granted. -/
theorem granted_before {x : Dealing} (h : Settled (before ++ x :: after))
    (hx : x = .used pool ∨ x = .released pool) : .granted pool ∈ before := by
  rcases hx with rfl | rfl
  · obtain ⟨front, back, rfl, -⟩ := h.fits rfl
    exact List.mem_append_right front List.mem_cons_self
  · obtain ⟨front, rfl | rfl⟩ := h.fits rfl
    · exact List.mem_append_right front List.mem_cons_self
    · exact List.mem_append_right front List.mem_cons_self

end Settled

-- ── Every run ──────────────────────────────────────────────────────

/-- **CONNECTIONS SETTLE IN EVERY RUN**, for every pool: as many are given back as were granted;
    a query stands right between a granted connection of the same pool and its release; a release
    ends a connection that was granted just before; and behind a refusal nothing is used or given
    back that has not been granted since. -/
theorem connections_settle (w : World) (steps : List Step) (pool : Nat) :
    (w.dealings steps).count (.granted pool) = (w.dealings steps).count (.released pool)
      ∧ (∀ before after, w.dealings steps = before ++ .used pool :: after →
          ∃ front back, before = front ++ [.granted pool] ∧ after = .released pool :: back)
      ∧ (∀ before after, w.dealings steps = before ++ .released pool :: after →
          ∃ front, before = front ++ [.granted pool]
            ∨ before = front ++ [.granted pool, .used pool])
      ∧ (∀ before after, w.dealings steps = before ++ .refused pool :: after →
          ∀ between x rest other, after = between ++ x :: rest →
            (x = .used other ∨ x = .released other) → .granted other ∈ between) := by
  have h := settled_dealings w steps
  refine ⟨h.count_granted pool, ?_, ?_, ?_⟩
  · intro before after hsplit
    exact h.fits hsplit
  · intro before after hsplit
    exact h.fits hsplit
  · intro before after hsplit between x rest other hafter hx
    have hbehind : Settled after := h.fits hsplit
    rw [hafter] at hbehind
    exact hbehind.granted_before hx

-- A query that succeeds, one that fails, and one for which there is no connection.
example :
    ({ sessions := [some { pool := 0, config := {} }] } : World).dealings
        [.run 0 "a", .change [.queryError (some (.timeout "late"))], .run 0 "b",
          .change [.acquireError (some (.timeout "none"))], .run 0 "c"]
      = [.granted 0, .used 0, .released 0, .granted 0, .used 0, .released 0, .refused 0] := rfl

end GraphLink
