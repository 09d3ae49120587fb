import GraphLink.Proofs.Address.Grammar
import GraphLink.Proofs.Address.Targets
import GraphLink.Proofs.Client.Provenance
import GraphLink.Proofs.Connection.Context
import GraphLink.Proofs.Connection.Query
import Mathlib.Data.List.Forall2

/-! # What the connector is handed

    Addresses are read with defaults for what a target leaves open, targets are joined and cut into
    words again, and a context is checked where it is read and once more where it is used.  What
    comes of all this holds of everything that is ever handed to the connector: addresses are
    complete (`Address.isComplete_of_parse`), a list of them is never empty and is what the words of
    the targets name (`Address.routers_of_parseTargets`), and no context has the reserved key, nor,
    if a URI was read, an empty text (`RoutingContext.isFilled_of_parse`).

    `Handed` puts this together for one call and the request that it is made for, with a constructor
    for each operation of the connector.  A request calls nothing else
    (`Request.handed_of_mem_calls`), and a step opens something only for its own request: every
    other call of it is on the pool of a driver or session that is open
    (`World.handed_of_mem_step`).  So it is at every step of every run (`connector_is_handed`). -/

namespace GraphLink

-- ── Addresses ──────────────────────────────────────────────────────

namespace Address

variable {a : Address} {targets : List String} {addresses : List Address}

/-- Whether an address says where to connect. -/
structure IsComplete (a : Address) : Prop where
  host : a.host ≠ ""
  port : 1 ≤ a.port.toNat ∧ a.port.toNat ≤ 65535

/-- An address is complete if there is a host and the port is not zero; sixteen bits hold no larger
    one. -/
theorem isComplete_of_ne_zero {host : String} {port : UInt16} (hhost : host ≠ "")
    (hport : port ≠ 0) : IsComplete ⟨host, port⟩ where
  host := hhost
  port := by
    have hlt : port.toNat < 65536 := UInt16.toNat_lt port
    have hne : port.toNat ≠ 0 := fun hzero => hport (UInt16.toNat_inj.mp hzero)
    exact ⟨Nat.one_le_iff_ne_zero.mpr hne, Nat.le_of_lt_succ hlt⟩

/-- **WHAT A TARGET NAMES IS COMPLETE.**  Defaults stand in for what is missing. -/
theorem isComplete_of_parse {target : String} (h : parse target = .ok a) : a.IsComplete := by
  refine isComplete_of_ne_zero ?_ (port_ne_zero_of_parse (by decide) h)
  obtain ⟨_, host, _, _, -, -, -, -, rfl⟩ := parse_eq_ok_iff.mp h
  intro hempty
  have hdefault : defaultHost = "" := (host_named_eq_empty_iff.mp hempty).2
  exact absurd hdefault (by decide)

/-- With the standard defaults every target names a complete address. -/
theorem isComplete_of_parseTarget {target : String} (h : parseTarget target = .ok a) :
    a.IsComplete :=
  isComplete_of_parse h

-- ── Lists of targets ───────────────────────────────────────────────

/-- The routers that targets name: one for each word, in order, or the standard ones if there is no
    word in them. -/
inductive Routers (targets : List String) : List Address → Prop where
  | named {addresses : List Address}
      (hwords : targets.flatMap (fun t => Text.words t.toList) ≠ [])
      (h : List.Forall₂ (fun w a => parse (String.ofList w) = .ok a)
        (targets.flatMap (fun t => Text.words t.toList)) addresses) : Routers targets addresses
  | standard (hnone : targets.flatMap (fun t => Text.words t.toList) = []) :
      Routers targets [⟨"localhost", 7687⟩, ⟨"localhost", 17601⟩, ⟨"localhost", 17687⟩]

/-- The standard targets are three ports of one host. -/
theorem parseList_standardTargets : parseList [standardTargets]
    = .ok [⟨"localhost", 7687⟩, ⟨"localhost", 17601⟩, ⟨"localhost", 17687⟩] := by
  rfl

/-- What targets are read as is what they name. -/
theorem routers_of_parseTargets (h : parseTargets targets = .ok addresses) :
    Routers targets addresses := by
  rw [parseTargets] at h
  obtain ⟨named, hlist, hrest⟩ := exists_of_bind_eq_ok h
  have hnamed : List.Forall₂ (fun w a => parse (String.ofList w) = .ok a)
      (targetWords targets) named := mapM_eq_ok_iff.mp hlist
  rw [targetWords_eq] at hnamed
  cases named with
  | nil =>
      rw [if_pos List.isEmpty_nil, parseList_standardTargets] at hrest
      cases hrest
      exact .standard (List.forall₂_nil_right_iff.mp hnamed)
  | cons a rest =>
      cases hrest
      refine .named ?_ hnamed
      intro hnil
      rw [hnil] at hnamed
      cases hnamed

/-- There is always a router. -/
theorem Routers.ne_nil (h : Routers targets addresses) : addresses ≠ [] := by
  cases h with
  | named hwords hall =>
      rintro rfl
      exact hwords (List.forall₂_nil_right_iff.mp hall)
  | standard _ => exact List.cons_ne_nil _ _

/-- Every router is a complete address. -/
theorem Routers.isComplete (h : Routers targets addresses) : ∀ a ∈ addresses, a.IsComplete := by
  cases h with
  | named _ hall =>
      intro a ha
      obtain ⟨w, -, hword⟩ := exists_of_forall₂ hall a ha
      exact isComplete_of_parse hword
  | standard _ =>
      simp only [List.forall_mem_cons]
      exact ⟨isComplete_of_ne_zero (by decide) (by decide),
        isComplete_of_ne_zero (by decide) (by decide),
        isComplete_of_ne_zero (by decide) (by decide), List.forall_mem_nil _⟩

end Address

-- ── Contexts ───────────────────────────────────────────────────────

namespace RoutingContext

variable {context : RoutingContext}

theorem get?_reservedKey (h : context.contains reservedKey = false) :
    context.get? reservedKey = none := by
  rw [SortedMap.contains] at h
  exact Option.not_isSome_iff_eq_none.mp ((Bool.not_eq_true _).mpr h)

end RoutingContext

/-- No text in the context of a URI is empty. -/
theorem ConnectionUri.isFilled_of_routingContext {u : ConnectionUri} {context : RoutingContext}
    (h : u.routingContext = .ok context) : context.IsFilled := by
  rw [routingContext] at h
  cases hquery : u.query with
  | none =>
      rw [hquery] at h
      cases h
      exact RoutingContext.isFilled_empty
  | some query =>
      rw [hquery] at h
      exact RoutingContext.isFilled_of_parse h

-- ── One request ────────────────────────────────────────────────────

/-- `Handed request c`: the call `c` hands to the connector what it may be handed for a request. -/
inductive Handed (request : Request) : Call → Prop where
  | direct {address : Address} {auth : AuthToken} {config : DriverConfig} {failed : Bool}
      (haddress : address.IsComplete) : Handed request (.openDirect address auth config failed)
  | routing {addresses : List Address} {auth : AuthToken} {context : RoutingContext}
      {config : DriverConfig} {failed : Bool} (hne : addresses ≠ [])
      (haddresses : ∀ a ∈ addresses, a.IsComplete)
      (htargets : ∀ targets given, request = .cluster targets given →
        Address.Routers targets addresses)
      (hreserved : context.get? RoutingContext.reservedKey = none)
      (hfilled : ∀ text, request = .uri text → context.IsFilled) :
      Handed request (.openRouting addresses auth context config failed)

variable {request : Request} {o : Options} {endpoint : Endpoint} {config : DriverConfig}

/-- What a request is admitted with may be handed over. -/
theorem Admitted.handed (h : Admitted request o endpoint config) (auth : AuthToken)
    (failed : Bool) : Handed request (endpoint.openCall auth config failed) := by
  cases h with
  | server haddress _ => exact .direct (Address.isComplete_of_parseTarget haddress)
  | cluster haddresses hreserved _ =>
      have hrouters := Address.routers_of_parseTargets haddresses
      refine .routing hrouters.ne_nil hrouters.isComplete ?_
        (RoutingContext.get?_reservedKey hreserved) nofun
      rintro targets given ⟨⟩
      exact hrouters
  | behind hpasses hrest =>
      cases hpasses with
      | server _ _ _ _ _ =>
          cases hrest with
          | server haddress _ => exact .direct (Address.isComplete_of_parseTarget haddress)
      | cluster _ _ hcontext _ =>
          cases hrest with
          | cluster haddresses hreserved _ =>
              have hrouters := Address.routers_of_parseTargets haddresses
              refine .routing hrouters.ne_nil hrouters.isComplete nofun
                (RoutingContext.get?_reservedKey hreserved) ?_
              intro text _
              exact ConnectionUri.isFilled_of_routingContext hcontext

/-- Whatever comes of a request, its calls hand over what they may. -/
theorem Request.handed_of_mem_calls {b : Backend} {pool : Nat} {auth : AuthToken} {c : Call}
    (h : c ∈ (request.serve b pool auth o).calls) : Handed request c := by
  obtain ⟨endpoint, config, hadmitted, rfl⟩ := admitted_of_mem_calls h
  exact hadmitted.handed auth b.openFault.isSome

-- ── Every run ──────────────────────────────────────────────────────

/-- `OnOpenPool w c`: the call reaches the pool of a driver or of a session that is open in `w`. -/
inductive OnOpenPool (w : World) (c : Call) : Prop where
  | driver {i : Nat} {d : Driver} (hdriver : w.driver? i = some d) (hopen : d.isOpen = true)
      (hpool : c.pool? = some d.pool)
  | session {j : Nat} {t : Session} (hsession : w.session? j = some t) (hopen : t.isOpen = true)
      (hpool : c.pool? = some t.pool)

namespace World

variable {w : World} {s : Step} {c : Call}

/-- A step that reaches a pool does so for a driver or a session that is open when it is taken. -/
theorem onOpenPool_of_mem_step {pool : Nat} (hpool : c.pool? = some pool)
    (h : c ∈ (w.step s).1.calls) : OnOpenPool w c := by
  have hcalls := w.stepCalls_step s
  generalize (w.step s).1.calls = calls at h hcalls
  cases hcalls with
  | nothing => cases h
  | opening hconnector =>
      rw [hconnector c h] at hpool
      cases hpool
  | query hsession hopen hlease => exact .session hsession hopen (pool?_of_lease hlease c h)
  | verifyServer hdriver hopen hlease | multiDb hdriver hopen hlease =>
      exact .driver hdriver hopen (pool?_of_lease hlease c h)
  | verifyRouters hdriver hopen hfetch =>
      obtain ⟨_, _, _, _, _, rfl⟩ := hfetch c h
      exact .driver hdriver hopen rfl
  | close hdriver hopen =>
      obtain rfl := List.mem_singleton.mp h
      exact .driver hdriver hopen rfl

/-- A step reaches a pool that is open, or hands over what its own request allows. -/
theorem handed_of_mem_step (h : c ∈ (w.step s).1.calls) :
    OnOpenPool w c
      ∨ ∃ request auth o, s.request? = some (request, auth, o) ∧ Handed request c := by
  cases hrequest : s.request? with
  | none =>
      obtain ⟨pool, hpool⟩ := pool?_of_no_request hrequest c h
      exact .inl (onOpenPool_of_mem_step hpool h)
  | some asked =>
      obtain ⟨request, auth, o⟩ := asked
      rw [step_of_request hrequest] at h
      exact .inr ⟨request, auth, o, rfl, Request.handed_of_mem_calls h⟩

end World

/-- **WHAT THE CONNECTOR IS HANDED**, for every request and in every run from any world.  Each
    address has a host and a port, a list of routers is not empty and is what the words of the
    targets name, and no context has the reserved key, nor, if it was read from a URI, an empty key
    or value.  In a run every call is that of a step; it is handed over for the request of that
    step, or else it is on the pool of a driver or session that is open when the step is taken. -/
theorem connector_is_handed :
    (∀ (request : Request) (b : Backend) (pool : Nat) (auth : AuthToken) (o : Options),
        ∀ c ∈ (request.serve b pool auth o).calls, Handed request c)
      ∧ ∀ (w : World) (steps : List Step),
          (∀ c, c ∈ w.calls steps ↔ ∃ before s after, steps = before ++ s :: after
            ∧ c ∈ ((w.run before).2.step s).1.calls)
          ∧ ∀ before s after, steps = before ++ s :: after →
              ∀ c ∈ ((w.run before).2.step s).1.calls,
                OnOpenPool (w.run before).2 c
                  ∨ ∃ request auth o, s.request? = some (request, auth, o)
                    ∧ Handed request c := by
  refine ⟨?_, ?_⟩
  · intro request b pool auth o c hc
    exact Request.handed_of_mem_calls hc
  · intro w steps
    refine ⟨fun c => World.mem_calls_iff, ?_⟩
    intro before s after _ c hc
    exact World.handed_of_mem_step hc

-- Words may stand in any target; what they leave open is filled in.
example :
    ((Request.cluster ["a ", " :1\t[::]:0"] SortedMap.empty).serve {} 0 .none SortedMap.empty).calls
      = [.openRouting [⟨"a", 7687⟩, ⟨"localhost", 1⟩, ⟨"::", 7687⟩] .none SortedMap.empty
          { pool := {}, workspace := {} } false] := by
  rfl

end GraphLink
