import GraphLink.Client.Opening
import GraphLink.Proofs.Options.Security

/-! # Validation comes first

    A driver is asked for by a `Request`, and validation goes through its stages in a fixed order.
    `Refused` says which stage is the first to fail and with which error, `Admitted` what the
    connector will be called with if none does; both are relations on the request alone, with one
    constructor for every stage, so that its premises are the stages before it.

    Every request is refused or admitted (`refused_or_admitted`).  A refused one fails with its
    error and calls nothing (`effect_serve_of_refused`); an admitted one calls the connector once,
    with what validation has found (`effect_serve_of_admitted`).  So the connector never sees
    anything that has not been validated, and nothing is validated behind its back
    (`serve_validates_first`). -/

namespace GraphLink

open Options (Secured Contradicts)

/-- What a driver is asked for by. -/
inductive Request where
  | uri (text : String)
  | server (target : String)
  | cluster (targets : List String) (context : RoutingContext)

/-- Opens the driver that is asked for; `pool` is the number that its pool will have. -/
def Request.serve (b : Backend) (pool : Nat) (auth : AuthToken) (o : Options) :
    Request → Report Driver
  | .uri text => Opening.uri b pool text auth o
  | .server target => Opening.direct b pool target auth o
  | .cluster targets context => Opening.routing b pool targets auth context o

-- ── The stages ─────────────────────────────────────────────────────

/-- The stages that are about a URI itself pass, and leave a request for the place that it names
    and a bag with what its scheme settles. -/
inductive Passes (text : String) (o : Options) : Request → Options → Prop where
  | server {u : ConnectionUri} {o' : Options} {context : RoutingContext}
      (hclassify : ConnectionUri.classify text = .ok u)
      (hsecurity : o.applySecurity u.security = .ok o')
      (hcontext : u.routingContext = .ok context) (hkind : u.kind = .direct)
      (hempty : context.isEmpty = true) : Passes text o (.server u.netloc) o'
  | cluster {u : ConnectionUri} {o' : Options} {context : RoutingContext}
      (hclassify : ConnectionUri.classify text = .ok u)
      (hsecurity : o.applySecurity u.security = .ok o')
      (hcontext : u.routingContext = .ok context) (hkind : u.kind = .routing) :
      Passes text o (.cluster [u.netloc] context) o'

/-- `Refused request o e`: some stage fails, and the first that does fails with `e`. -/
inductive Refused : Request → Options → Error → Prop where
  /-- The text is not a connection URI. -/
  | classification {text : String} {o : Options} {fault : ConnectionUri.Fault}
      (hclassify : ConnectionUri.classify text = .error fault) :
      Refused (.uri text) o fault.toError
  /-- An option is set that the scheme settles. -/
  | contradiction {text : String} {o : Options} {u : ConnectionUri}
      (hclassify : ConnectionUri.classify text = .ok u)
      (hcontradicts : Contradicts u.security o) :
      Refused (.uri text) o Options.Fault.settledByScheme.toError
  /-- The query is not a routing context. -/
  | context {text : String} {o o' : Options} {u : ConnectionUri} {fault : RoutingContext.Fault}
      (hclassify : ConnectionUri.classify text = .ok u)
      (hsecurity : o.applySecurity u.security = .ok o')
      (hcontext : u.routingContext = .error fault) : Refused (.uri text) o fault.toError
  /-- There is a routing context under a scheme that has no use for one. -/
  | useless {text : String} {o o' : Options} {u : ConnectionUri} {context : RoutingContext}
      (hclassify : ConnectionUri.classify text = .ok u)
      (hsecurity : o.applySecurity u.security = .ok o')
      (hcontext : u.routingContext = .ok context) (hkind : u.kind = .direct)
      (hempty : context.isEmpty = false) : Refused (.uri text) o (Opening.uselessContext u text)
  /-- The URI is in order, but not the place that it names or the options. -/
  | behind {text : String} {o o' : Options} {request : Request} {e : Error}
      (hpasses : Passes text o request o') (hrest : Refused request o' e) : Refused (.uri text) o e
  /-- The target is not an address. -/
  | address {target : String} {o : Options} {fault : Address.Fault}
      (haddress : Address.parseTarget target = .error fault) :
      Refused (.server target) o fault.toError
  | serverOptions {target : String} {o : Options} {address : Address} {fault : Options.Fault}
      (haddress : Address.parseTarget target = .ok address)
      (hoptions : DriverConfig.consume o = .error fault) : Refused (.server target) o fault.toError
  /-- One of the targets is not an address. -/
  | addresses {targets : List String} {context : RoutingContext} {o : Options}
      {fault : Address.Fault} (haddresses : Address.parseTargets targets = .error fault) :
      Refused (.cluster targets context) o fault.toError
  /-- The routing context has the reserved key. -/
  | reserved {targets : List String} {context : RoutingContext} {o : Options}
      {addresses : List Address} (haddresses : Address.parseTargets targets = .ok addresses)
      (hreserved : context.contains RoutingContext.reservedKey = true) :
      Refused (.cluster targets context) o RoutingContext.Fault.reserved.toError
  | clusterOptions {targets : List String} {context : RoutingContext} {o : Options}
      {addresses : List Address} {fault : Options.Fault}
      (haddresses : Address.parseTargets targets = .ok addresses)
      (hreserved : context.contains RoutingContext.reservedKey = false)
      (hoptions : DriverConfig.consume o = .error fault) :
      Refused (.cluster targets context) o fault.toError

/-- `Admitted request o endpoint config`: no stage fails, and validation has found the endpoint
    and the configuration. -/
inductive Admitted : Request → Options → Endpoint → DriverConfig → Prop where
  | behind {text : String} {o o' : Options} {request : Request} {endpoint : Endpoint}
      {config : DriverConfig} (hpasses : Passes text o request o')
      (hrest : Admitted request o' endpoint config) : Admitted (.uri text) o endpoint config
  | server {target : String} {o : Options} {address : Address} {config : DriverConfig}
      (haddress : Address.parseTarget target = .ok address)
      (hoptions : DriverConfig.consume o = .ok config) :
      Admitted (.server target) o (.direct address) config
  | cluster {targets : List String} {context : RoutingContext} {o : Options}
      {addresses : List Address} {config : DriverConfig}
      (haddresses : Address.parseTargets targets = .ok addresses)
      (hreserved : context.contains RoutingContext.reservedKey = false)
      (hoptions : DriverConfig.consume o = .ok config) :
      Admitted (.cluster targets context) o (.routing addresses context) config

/-- A request for one server is refused for its target or its options, or admitted. -/
theorem refused_or_admitted_server (target : String) (o : Options) :
    (∃ e, Refused (.server target) o e)
      ∨ ∃ endpoint config, Admitted (.server target) o endpoint config := by
  cases haddress : Address.parseTarget target with
  | error fault => exact .inl ⟨_, .address haddress⟩
  | ok address =>
      cases hoptions : DriverConfig.consume o with
      | error fault => exact .inl ⟨_, .serverOptions haddress hoptions⟩
      | ok config => exact .inr ⟨_, _, .server haddress hoptions⟩

/-- A request for a cluster is refused for its targets, its context or its options, or admitted. -/
theorem refused_or_admitted_cluster (targets : List String) (context : RoutingContext)
    (o : Options) :
    (∃ e, Refused (.cluster targets context) o e)
      ∨ ∃ endpoint config, Admitted (.cluster targets context) o endpoint config := by
  cases haddresses : Address.parseTargets targets with
  | error fault => exact .inl ⟨_, .addresses haddresses⟩
  | ok addresses =>
      cases hreserved : context.contains RoutingContext.reservedKey with
      | true => exact .inl ⟨_, .reserved haddresses hreserved⟩
      | false =>
          cases hoptions : DriverConfig.consume o with
          | error fault => exact .inl ⟨_, .clusterOptions haddresses hreserved hoptions⟩
          | ok config => exact .inr ⟨_, _, .cluster haddresses hreserved hoptions⟩

/-- Behind a URI that passes it is up to the request for the place that it names. -/
theorem refused_or_admitted_behind {text : String} {o o' : Options} {request : Request}
    (hpasses : Passes text o request o')
    (h : (∃ e, Refused request o' e) ∨ ∃ endpoint config, Admitted request o' endpoint config) :
    (∃ e, Refused (.uri text) o e)
      ∨ ∃ endpoint config, Admitted (.uri text) o endpoint config := by
  rcases h with ⟨e, hrefused⟩ | ⟨endpoint, config, hadmitted⟩
  · exact .inl ⟨e, .behind hpasses hrefused⟩
  · exact .inr ⟨endpoint, config, .behind hpasses hadmitted⟩

/-- **EVERY REQUEST IS REFUSED OR ADMITTED.** -/
theorem refused_or_admitted (request : Request) (o : Options) :
    (∃ e, Refused request o e) ∨ ∃ endpoint config, Admitted request o endpoint config := by
  cases request with
  | server target => exact refused_or_admitted_server target o
  | cluster targets context => exact refused_or_admitted_cluster targets context o
  | uri text =>
      -- The stages in their order: each one refuses, or the next is asked.
      cases hclassify : ConnectionUri.classify text with
      | error fault => exact .inl ⟨_, .classification hclassify⟩
      | ok u =>
          obtain ⟨hcontradicts, -⟩ | ⟨-, o', hsecurity, -⟩ :=
            Options.applySecurity_cases u.security o
          · exact .inl ⟨_, .contradiction hclassify hcontradicts⟩
          · cases hcontext : u.routingContext with
            | error fault => exact .inl ⟨_, .context hclassify hsecurity hcontext⟩
            | ok context =>
                cases hkind : u.kind with
                | routing =>
                    exact refused_or_admitted_behind
                      (.cluster hclassify hsecurity hcontext hkind)
                      (refused_or_admitted_cluster [u.netloc] context o')
                | direct =>
                    cases hempty : context.isEmpty with
                    | false =>
                        exact .inl ⟨_, .useless hclassify hsecurity hcontext hkind hempty⟩
                    | true =>
                        exact refused_or_admitted_behind
                          (.server hclassify hsecurity hcontext hkind hempty)
                          (refused_or_admitted_server u.netloc o')

/-- A refusal is the caller's own fault. -/
theorem Refused.isClientError {request : Request} {o : Options} {e : Error}
    (h : Refused request o e) : e.isClientError = true := by
  have hoptions (fault : Options.Fault) : fault.toError.isClientError = true := by
    cases fault <;> rfl
  induction h with
  | @classification text o fault hclassify => cases fault <;> rfl
  | contradiction _ _ => exact hoptions _
  | serverOptions _ _ => exact hoptions _
  | clusterOptions _ _ _ => exact hoptions _
  | behind _ _ ih => exact ih
  | context _ _ _ => rfl
  | useless _ _ _ _ _ => rfl
  | address _ => rfl
  | addresses _ => rfl
  | reserved _ _ => rfl

-- ── What is done ───────────────────────────────────────────────────

namespace Report

variable {α : Type}

/-- What a report comes to apart from its log: the answer and the calls. -/
def effect (r : Report α) : Except Error α × List Call :=
  (r.answer, r.calls)

theorem answer_of_effect {r : Report α} {x : Except Error α × List Call} (h : r.effect = x) :
    r.answer = x.1 :=
  congrArg Prod.fst h

theorem calls_of_effect {r : Report α} {x : Except Error α × List Call} (h : r.effect = x) :
    r.calls = x.2 :=
  congrArg Prod.snd h

end Report

/-- The call that asks the connector for a pool to an endpoint. -/
def Endpoint.openCall (auth : AuthToken) (config : DriverConfig) (failed : Bool) :
    Endpoint → Call
  | .direct address => .openDirect address auth config failed
  | .routing addresses context => .openRouting addresses auth context config failed

namespace Backend

/-- The endpoint of a driver whose pool has been opened: the pool may begin with routers of its
    own. -/
def connected (b : Backend) : Endpoint → Endpoint
  | .direct address => .direct address
  | .routing addresses context => .routing (b.initialRouters.getD addresses) context

/-- What opening comes to when nothing is left to validate: the connector is called once, and its
    fault is the only one that there can be. -/
def connect (b : Backend) (pool : Nat) (auth : AuthToken) (endpoint : Endpoint)
    (config : DriverConfig) : Except Error Driver × List Call :=
  match b.openFault with
  | none =>
      (.ok { pool, endpoint := b.connected endpoint, config },
        [endpoint.openCall auth config false])
  | some fault => (.error fault.toError, [endpoint.openCall auth config true])

/-- The connector is called once, whether it fails or not. -/
theorem snd_connect (b : Backend) (pool : Nat) (auth : AuthToken) (endpoint : Endpoint)
    (config : DriverConfig) :
    (b.connect pool auth endpoint config).2
      = [endpoint.openCall auth config b.openFault.isSome] := by
  rw [connect]
  cases b.openFault <;> rfl

end Backend

namespace Opening

variable {b : Backend} {pool : Nat} {auth : AuthToken} {o o' : Options} {text : String}
  {u : ConnectionUri}

/-- A target and options that are in order are handed over to the connector. -/
theorem effect_direct {target : String} {address : Address} {config : DriverConfig}
    (haddress : Address.parseTarget target = .ok address)
    (hoptions : DriverConfig.consume o = .ok config) :
    (direct b pool target auth o).effect = b.connect pool auth (.direct address) config := by
  rw [direct, haddress, hoptions]
  show ((callConnector b (.openDirect address auth config) address.text).bind _).effect = _
  rw [callConnector, Backend.connect]
  cases b.openFault <;> rfl

/-- Targets, a context and options that are in order are handed over to the connector. -/
theorem effect_routing {targets : List String} {context : RoutingContext}
    {addresses : List Address} {config : DriverConfig}
    (haddresses : Address.parseTargets targets = .ok addresses)
    (hreserved : context.contains RoutingContext.reservedKey = false)
    (hoptions : DriverConfig.consume o = .ok config) :
    (routing b pool targets auth context o).effect
      = b.connect pool auth (.routing addresses context) config := by
  rw [routing, haddresses, RoutingContext.checkReserved, hreserved, hoptions]
  show ((callConnector b (.openRouting addresses auth context config) _).bind _).effect = _
  rw [callConnector, Backend.connect]
  cases b.openFault <;> rfl

/-- Once a URI has been read, what opening comes to is up to the stages behind. -/
theorem effect_uri_of_classify (hclassify : ConnectionUri.classify text = .ok u) :
    (uri b pool text auth o).effect
      = (do
          let o ← check Options.Fault.toError (o.applySecurity u.security)
          let context ← check RoutingContext.Fault.toError u.routingContext
          match u.kind with
          | .direct =>
              if context.isEmpty then direct b pool u.netloc auth o
              else .fail (uselessContext u text)
          | .routing => routing b pool [u.netloc] auth context o : Report Driver).effect := by
  rw [uri, classify, check, hclassify]
  rfl

/-- Opening a driver for a URI that passes is opening it for the place that it names. -/
theorem effect_uri_of_passes {request : Request} (h : Passes text o request o') :
    (uri b pool text auth o).effect = (request.serve b pool auth o').effect := by
  cases h with
  | server hclassify hsecurity hcontext hkind hempty =>
      rw [effect_uri_of_classify hclassify, hsecurity, hcontext, hkind]
      show (if _ then _ else _ : Report Driver).effect = _
      rw [if_pos hempty]
      rfl
  | cluster hclassify hsecurity hcontext hkind =>
      rw [effect_uri_of_classify hclassify, hsecurity, hcontext, hkind]
      rfl

end Opening

namespace Request

variable {request : Request} {o : Options}

/-- **A REFUSED REQUEST CALLS NOTHING** and fails with the error of the stage that refuses it. -/
theorem effect_serve_of_refused {e : Error} (h : Refused request o e) (b : Backend) (pool : Nat)
    (auth : AuthToken) : (request.serve b pool auth o).effect = (.error e, []) := by
  induction h with
  | classification hclassify =>
      rw [serve, Opening.uri, Opening.classify, Opening.check, hclassify]
      rfl
  | contradiction hclassify hcontradicts =>
      rw [serve, Opening.effect_uri_of_classify hclassify,
        Options.applySecurity_of_contradicts hcontradicts]
      rfl
  | context hclassify hsecurity hcontext =>
      rw [serve, Opening.effect_uri_of_classify hclassify, hsecurity, hcontext]
      rfl
  | useless hclassify hsecurity hcontext hkind hempty =>
      rw [serve, Opening.effect_uri_of_classify hclassify, hsecurity, hcontext, hkind]
      show (if _ then _ else _ : Report Driver).effect = _
      rw [if_neg (by rw [hempty]; exact Bool.false_ne_true)]
      rfl
  -- Behind a URI that passes, it is the request for its place that is refused.
  | behind hpasses _ ih =>
      rw [serve, Opening.effect_uri_of_passes hpasses]
      exact ih
  | address haddress =>
      rw [serve, Opening.direct, haddress]
      rfl
  | serverOptions haddress hoptions =>
      rw [serve, Opening.direct, haddress, hoptions]
      rfl
  | addresses haddresses =>
      rw [serve, Opening.routing, haddresses]
      rfl
  | reserved haddresses hreserved =>
      rw [serve, Opening.routing, haddresses, RoutingContext.checkReserved, hreserved]
      rfl
  | clusterOptions haddresses hreserved hoptions =>
      rw [serve, Opening.routing, haddresses, RoutingContext.checkReserved, hreserved, hoptions]
      rfl

/-- **AN ADMITTED REQUEST CALLS THE CONNECTOR ONCE**, with what validation has found. -/
theorem effect_serve_of_admitted {endpoint : Endpoint} {config : DriverConfig}
    (h : Admitted request o endpoint config) (b : Backend) (pool : Nat) (auth : AuthToken) :
    (request.serve b pool auth o).effect = b.connect pool auth endpoint config := by
  induction h with
  | behind hpasses _ ih =>
      rw [serve, Opening.effect_uri_of_passes hpasses]
      exact ih
  | server haddress hoptions => exact Opening.effect_direct haddress hoptions
  | cluster haddresses hreserved hoptions =>
      exact Opening.effect_routing haddresses hreserved hoptions

/-- Whatever opening calls, it calls for a request that has been admitted. -/
theorem admitted_of_mem_calls {b : Backend} {pool : Nat} {auth : AuthToken} {c : Call}
    (h : c ∈ (request.serve b pool auth o).calls) :
    ∃ endpoint config, Admitted request o endpoint config
      ∧ c = endpoint.openCall auth config b.openFault.isSome := by
  obtain ⟨e, hrefused⟩ | ⟨endpoint, config, hadmitted⟩ := refused_or_admitted request o
  · rw [Report.calls_of_effect (effect_serve_of_refused hrefused b pool auth)] at h
    exact nomatch h
  · rw [Report.calls_of_effect (effect_serve_of_admitted hadmitted b pool auth),
      Backend.snd_connect] at h
    exact ⟨endpoint, config, hadmitted, List.mem_singleton.mp h⟩

/-- **VALIDATION COMES FIRST**, for whatever is asked for and whatever the connector would do.
    Every request is refused or admitted.  A refused one fails with the error of the first stage
    that fails, which is the caller's own fault, and calls nothing.  An admitted one calls the
    connector once, with the addresses and the context that were read, the token as it is, and the
    configuration of the options; it is answered with an open driver, or with the connector's
    fault, of which a refused configuration stays what it is and every other one becomes "service
    unavailable". -/
theorem serve_validates_first (request : Request) (auth : AuthToken) (o : Options) :
    ((∃ e, Refused request o e) ∨ ∃ endpoint config, Admitted request o endpoint config)
      ∧ (∀ e, Refused request o e → e.isClientError = true
          ∧ ∀ b pool, (request.serve b pool auth o).answer = .error e
            ∧ (request.serve b pool auth o).calls = [])
      ∧ (∀ endpoint config, Admitted request o endpoint config → ∀ b : Backend, ∀ pool,
          (b.openFault = none →
            (request.serve b pool auth o).answer
                = .ok { pool, endpoint := b.connected endpoint, config, isOpen := true }
              ∧ (request.serve b pool auth o).calls = [endpoint.openCall auth config false])
          ∧ (∀ m, b.openFault = some (.configuration m) →
            (request.serve b pool auth o).answer = .error (.configuration m)
              ∧ (request.serve b pool auth o).calls = [endpoint.openCall auth config true])
          ∧ (∀ fault, b.openFault = some fault → (∀ m, fault ≠ .configuration m) →
            (request.serve b pool auth o).answer = .error (.serviceUnavailable fault.message)
              ∧ (request.serve b pool auth o).calls = [endpoint.openCall auth config true])) := by
  refine ⟨refused_or_admitted request o, ?_, ?_⟩
  · intro e hrefused
    refine ⟨hrefused.isClientError, ?_⟩
    intro b pool
    exact Prod.mk.inj (effect_serve_of_refused hrefused b pool auth)
  · intro endpoint config hadmitted b pool
    -- Past validation only the connector can fail, and its fault decides the error.
    have heffect := effect_serve_of_admitted hadmitted b pool auth
    rw [Backend.connect] at heffect
    refine ⟨?_, ?_, ?_⟩
    · intro hopens
      rw [hopens] at heffect
      exact Prod.mk.inj heffect
    · intro m hfault
      rw [hfault] at heffect
      exact Prod.mk.inj heffect
    · intro fault hfault hother
      rw [hfault] at heffect
      cases fault with
      | configuration m => exact absurd rfl (hother m)
      | _ => exact Prod.mk.inj heffect

-- The options contradict the scheme, the query has the reserved key, and an option is unknown: the
-- first of these is told.
example :
    ((uri "bolt+s://h?address=x").serve {} 0 .none
        (SortedMap.ofList [(Options.encryptedKey, .null), ("x", .null)])).answer
      = .error Options.Fault.settledByScheme.toError := rfl

end Request
end GraphLink
