import GraphLink.Proofs.Client.Validation
import GraphLink.Proofs.Config.Driver
import GraphLink.Proofs.Connection.Canonical

/-! # The scheme settles security

    A pool that is opened for a URI is opened with the encryption and the trust that the scheme
    settles, whatever the options say; options that try to say something are refused before
    anything is opened.  Under a plain scheme the options alone decide.

    Everything else in the configuration comes from the options as if the scheme were plain.  This
    is a statement about two runs: one with the URI, and one with the same place under a plain
    scheme (`calls_of_plain`).  `scheme_settles_security` puts both together. -/

namespace GraphLink

namespace Call

/-- The configuration that a call on the connector hands over. -/
def config? : Call → Option DriverConfig
  | .openDirect _ _ config _ | .openRouting _ _ _ config _ => some config
  | _ => none

/-- The call with what a security mode settles in its configuration. -/
def secure (security : Security) : Call → Call
  | .openDirect address auth config failed =>
      .openDirect address auth (config.secure security) failed
  | .openRouting addresses auth context config failed =>
      .openRouting addresses auth context (config.secure security) failed
  | c => c

end Call

theorem Endpoint.config?_openCall (auth : AuthToken) (config : DriverConfig) (failed : Bool)
    (endpoint : Endpoint) : (endpoint.openCall auth config failed).config? = some config := by
  cases endpoint <;> rfl

/-- A mode that is settled before the call is the mode of the call. -/
theorem Endpoint.openCall_secure (auth : AuthToken) (config : DriverConfig) (failed : Bool)
    (endpoint : Endpoint) (security : Security) :
    endpoint.openCall auth (config.secure security) failed
      = (endpoint.openCall auth config failed).secure security := by
  cases endpoint <;> rfl

-- ── What is handed over ────────────────────────────────────────────

/-- What a URI is admitted with: the configuration of the options, with what the scheme settles. -/
theorem Admitted.config_of_uri {text : String} {o : Options} {endpoint : Endpoint}
    {config : DriverConfig} (h : Admitted (.uri text) o endpoint config) :
    ∃ u base, ConnectionUri.classify text = .ok u ∧ DriverConfig.consume o = .ok base
      ∧ config = base.secure u.security := by
  cases h with
  | behind hpasses hrest =>
      cases hpasses with
      | @server u _ _ hclassify hsecurity _ _ _ =>
          cases hrest with
          | server _ hoptions =>
              obtain ⟨base, hconsume, rfl⟩ := DriverConfig.base_of_consume_secured
                (Options.secured_of_applySecurity hsecurity) hoptions
              exact ⟨u, base, hclassify, hconsume, rfl⟩
      | @cluster u _ _ hclassify hsecurity _ _ =>
          cases hrest with
          | cluster _ _ hoptions =>
              obtain ⟨base, hconsume, rfl⟩ := DriverConfig.base_of_consume_secured
                (Options.secured_of_applySecurity hsecurity) hoptions
              exact ⟨u, base, hclassify, hconsume, rfl⟩

-- ── Next to the plain scheme ───────────────────────────────────────

/-- The scheme of the same kind that leaves security to the options. -/
def Scheme.plain (s : Scheme) : Scheme :=
  match s.kind with
  | .direct => .bolt
  | .routing => .neo4j

/-- The same place under the plain scheme. -/
def ConnectionUri.plain (u : ConnectionUri) : ConnectionUri :=
  { u with scheme := u.scheme.plain }

namespace ConnectionUri

variable {text : String} {u : ConnectionUri}

/-- The plain scheme settles nothing. -/
theorem security_plain (u : ConnectionUri) : u.plain.security = .plain := by
  show u.scheme.plain.security = .plain
  cases u.scheme <;> rfl

/-- The plain scheme is for the same kind of driver. -/
theorem kind_plain (u : ConnectionUri) : u.plain.kind = u.kind := by
  show u.scheme.plain.kind = u.scheme.kind
  cases u.scheme <;> rfl

/-- What has been read under one scheme is also read under the plain one. -/
theorem classify_render_plain (h : classify text = .ok u) :
    classify u.plain.render = .ok u.plain :=
  classify_render_under h u.scheme.plain

end ConnectionUri

namespace Opening

variable {b : Backend} {pool : Nat} {auth : AuthToken} {o o' : Options} {security : Security}

/-- For one server, what is called with a secured bag is what is called without, but for what the
    mode settles. -/
theorem calls_direct_of_secured (h : Options.Secured o security o') (target : String) :
    (direct b pool target auth o').calls
      = (direct b pool target auth o).calls.map (Call.secure security) := by
  have hconsume := DriverConfig.consume_of_secured h
  cases haddress : Address.parseTarget target with
  | error fault =>
      rw [direct, direct, haddress]
      rfl
  | ok address =>
      cases hoptions : DriverConfig.consume o with
      | error fault =>
          rw [hoptions] at hconsume
          rw [direct, direct, haddress, hoptions, hconsume]
          rfl
      | ok config =>
          rw [hoptions] at hconsume
          rw [Report.calls_of_effect (effect_direct haddress hconsume),
            Report.calls_of_effect (effect_direct haddress hoptions),
            Backend.snd_connect, Backend.snd_connect, Endpoint.openCall_secure]
          rfl

/-- For a cluster, what is called with a secured bag is what is called without, but for what the
    mode settles. -/
theorem calls_routing_of_secured (h : Options.Secured o security o') (targets : List String)
    (context : RoutingContext) :
    (routing b pool targets auth context o').calls
      = (routing b pool targets auth context o).calls.map (Call.secure security) := by
  have hconsume := DriverConfig.consume_of_secured h
  -- A fault comes at the same check with both bags; past the checks, only the configuration
  -- differs.
  cases haddresses : Address.parseTargets targets with
  | error fault =>
      rw [routing, routing, haddresses]
      rfl
  | ok addresses =>
      cases hreserved : context.contains RoutingContext.reservedKey with
      | true =>
          rw [routing, routing, haddresses, RoutingContext.checkReserved, hreserved]
          rfl
      | false =>
          cases hoptions : DriverConfig.consume o with
          | error fault =>
              rw [hoptions] at hconsume
              rw [routing, routing, haddresses, RoutingContext.checkReserved, hreserved, hoptions,
                hconsume]
              rfl
          | ok config =>
              rw [hoptions] at hconsume
              rw [Report.calls_of_effect (effect_routing haddresses hreserved hconsume),
                Report.calls_of_effect (effect_routing haddresses hreserved hoptions),
                Backend.snd_connect, Backend.snd_connect, Endpoint.openCall_secure]
              rfl

/-- What is called for a URI whose scheme does not contradict the options. -/
theorem calls_uri {text : String} {u : ConnectionUri}
    (hclassify : ConnectionUri.classify text = .ok u)
    (hsecurity : o.applySecurity u.security = .ok o') :
    (uri b pool text auth o).calls
      = match u.routingContext with
        | .error _ => []
        | .ok context =>
            match u.kind with
            | .direct => if context.isEmpty then (direct b pool u.netloc auth o').calls else []
            | .routing => (routing b pool [u.netloc] auth context o').calls := by
  rw [Report.calls_of_effect (effect_uri_of_classify hclassify), hsecurity]
  cases u.routingContext with
  | error fault => rfl
  | ok context =>
      cases u.kind with
      | routing => rfl
      | direct =>
          show (if _ then _ else _ : Report Driver).calls = if _ then _ else _
          split <;> rfl

/-- **NEXT TO THE PLAIN SCHEME**: what a URI calls is what the same place calls under the plain
    scheme, with what its own scheme settles. -/
theorem calls_of_plain {text : String} {u : ConnectionUri}
    (hclassify : ConnectionUri.classify text = .ok u)
    (hcontradicts : ¬ Options.Contradicts u.security o) :
    (uri b pool text auth o).calls
      = (uri b pool u.plain.render auth o).calls.map (Call.secure u.security) := by
  obtain ⟨hcontra, -⟩ | ⟨-, o', happly, hsecured⟩ := Options.applySecurity_cases u.security o
  · exact absurd hcontra hcontradicts
  -- Under the plain scheme nothing is settled: the bag goes on as it is.
  · have hplain : o.applySecurity u.plain.security = .ok o := by
      rw [u.security_plain]
      rfl
    have hnetloc : u.plain.netloc = u.netloc := rfl
    have hcontext : u.plain.routingContext = u.routingContext := rfl
    rw [calls_uri hclassify happly,
      calls_uri (ConnectionUri.classify_render_plain hclassify) hplain, hcontext, hnetloc,
      u.kind_plain]
    cases u.routingContext with
    | error fault => rfl
    | ok context =>
        cases u.kind with
        | routing => exact calls_routing_of_secured hsecured [u.netloc] context
        | direct =>
            by_cases hempty : context.isEmpty = true
            · simp only [if_pos hempty]
              exact calls_direct_of_secured hsecured u.netloc
            · simp only [if_neg hempty]
              rfl

/-- **THE SCHEME SETTLES SECURITY**, for all URIs, tokens, options and connectors.  Every pool is
    asked for with the encryption and the trust of a secure scheme, or of the options alone under a
    plain one, and with the configuration of the options in every other part.  Options that set what
    a secure scheme settles are refused, whatever they set it to, and a text that is not a
    connection URI is refused as such; neither opens anything.  And wherever the options do not
    contradict the scheme, the calls are those for the same place under the plain scheme, but for
    what the scheme settles. -/
theorem scheme_settles_security (b : Backend) (pool : Nat) (text : String) (auth : AuthToken)
    (o : Options) :
    (∀ c ∈ (uri b pool text auth o).calls, ∃ u base config,
        ConnectionUri.classify text = .ok u ∧ DriverConfig.consume o = .ok base
          ∧ (PoolConfig.layer.take o).1 = .ok base.pool ∧ c.config? = some config
          ∧ (u.security = .verified → config.pool.encrypted = true ∧ config.pool.trust = .system)
          ∧ (u.security = .selfSigned → config.pool.encrypted = true ∧ config.pool.trust = .all)
          ∧ (u.security = .plain → config.pool.encrypted = base.pool.encrypted
              ∧ config.pool.trust = base.pool.trust)
          ∧ config = { base with pool := { base.pool with
              encrypted := config.pool.encrypted, trust := config.pool.trust } })
      ∧ (∀ u, ConnectionUri.classify text = .ok u → u.security.isSecure = true →
          (o.contains Options.encryptedKey = true ∨ o.contains Options.certificatesKey = true) →
          (uri b pool text auth o).calls = []
            ∧ ∃ m, (uri b pool text auth o).answer = .error (.configuration m))
      ∧ (∀ fault, ConnectionUri.classify text = .error fault →
          (uri b pool text auth o).calls = []
            ∧ (uri b pool text auth o).answer = .error fault.toError)
      ∧ (∀ u, ConnectionUri.classify text = .ok u → ¬ Options.Contradicts u.security o →
          ConnectionUri.classify u.plain.render = .ok u.plain
            ∧ (uri b pool text auth o).calls
              = (uri b pool u.plain.render auth o).calls.map (Call.secure u.security)) := by
  refine ⟨?_, ?_, ?_, ?_⟩
  · intro c hc
    have hserve : c ∈ ((Request.uri text).serve b pool auth o).calls := hc
    -- Only a request that is admitted calls the connector, and its configuration is known.
    obtain ⟨endpoint, config, hadmitted, rfl⟩ := Request.admitted_of_mem_calls hserve
    obtain ⟨u, base, hclassify, hconsume, rfl⟩ := hadmitted.config_of_uri
    refine ⟨u, base, base.secure u.security, hclassify, hconsume,
      DriverConfig.take_pool_of_consume hconsume, Endpoint.config?_openCall _ _ _ _, ?_⟩
    cases u.security with
    | plain => exact ⟨nofun, nofun, fun _ => ⟨rfl, rfl⟩, rfl⟩
    | verified => exact ⟨fun _ => ⟨rfl, rfl⟩, nofun, nofun, rfl⟩
    | selfSigned => exact ⟨nofun, fun _ => ⟨rfl, rfl⟩, nofun, rfl⟩
  · intro u hclassify hsecure hset
    have heffect := Request.effect_serve_of_refused
      (Refused.contradiction hclassify ⟨hsecure, hset⟩) b pool auth
    exact ⟨Report.calls_of_effect heffect, _, Report.answer_of_effect heffect⟩
  · intro fault hclassify
    have heffect := Request.effect_serve_of_refused
      (Refused.classification (o := o) hclassify) b pool auth
    exact ⟨Report.calls_of_effect heffect, Report.answer_of_effect heffect⟩
  · intro u hclassify hcontradicts
    exact ⟨ConnectionUri.classify_render_plain hclassify, calls_of_plain hclassify hcontradicts⟩

-- The scheme turns encryption on and trusts every certificate; the option is taken as it is.
example :
    (uri {} 0 "bolt+ssc://h" .none (SortedMap.empty.insert "keep_alive" (.bool false))).calls.map
        (fun c => c.config?.map (fun g => (g.pool.encrypted, g.pool.trust, g.pool.keepAlive)))
      = [some (true, .all, false)] := rfl

end Opening
end GraphLink
