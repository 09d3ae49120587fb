import GraphLink.Client.Driver

/-! # What verifying a cluster comes to

    All routers are asked at once, and what counts is each router's own result if it comes in time
    and the error of a service that is not available if it does not (`Router.Gives`).  The outcome
    is a function of these results in the order of the table: the first fatal error, or else the
    error that nobody answered, or else one probe for every router (`verify_routing`).

    An error that is not fatal counts as missing information, so it makes no difference in which
    of the three tolerated ways a router failed, or with what words. -/

namespace GraphLink

-- ── Fatal errors ───────────────────────────────────────────────────

/-- Whether an error of one router ends the verification: it is none of the three kinds that are
    expected of a router. -/
def Error.IsFatal (e : Error) : Prop :=
  (∀ detail, e ≠ .serviceUnavailable detail) ∧ (∀ detail, e ≠ .sessionExpired detail)
    ∧ ∀ code detail, e ≠ .server code detail

namespace Verification

/-- The errors that are not tolerated are the fatal ones. -/
theorem isTolerated_eq_false {e : Error} : isTolerated e = false ↔ e.IsFatal := by
  constructor
  · intro h
    refine ⟨?_, ?_, ?_⟩
    · rintro detail rfl
      exact nomatch h
    · rintro detail rfl
      exact nomatch h
    · rintro code detail rfl
      exact nomatch h
  · rintro ⟨hunavailable, hexpired, hserver⟩
    cases e with
    | serviceUnavailable detail => exact absurd rfl (hunavailable detail)
    | sessionExpired detail => exact absurd rfl (hexpired detail)
    | server code detail => exact absurd rfl (hserver code detail)
    | _ => rfl

/-- A service that is not available is no reason to stop. -/
theorem not_isFatal_serviceUnavailable (detail : String) :
    ¬ (Error.serviceUnavailable detail).IsFatal :=
  fun h => h.1 detail rfl

-- ── Results ────────────────────────────────────────────────────────

/-- Whether a result leaves the others to decide. -/
def IsHarmless (result : Except Error (Option RoutingInfo)) : Prop :=
  ∀ e, result = .error e → ¬ e.IsFatal

/-- The information in a result; none in an error. -/
def infoOf : Except Error (Option RoutingInfo) → Option RoutingInfo
  | .ok info => info
  | .error _ => none

/-- Information comes from an answer that has some. -/
theorem infoOf_eq_some {result : Except Error (Option RoutingInfo)} {info : RoutingInfo} :
    infoOf result = some info ↔ result = .ok (some info) := by
  cases result with
  | error e =>
      constructor
      · intro h
        exact nomatch h
      · intro h
        exact nomatch h
  | ok info' =>
      constructor
      · intro h
        exact congrArg Except.ok h
      · intro h
        exact Except.ok.inj h

-- ── Going through the results ──────────────────────────────────────

variable {before after rest slots : List (Address × Except Error (Option RoutingInfo))}

/-- A result that leaves the others to decide adds a probe with its information. -/
theorem settle_cons_of_isHarmless {address : Address}
    {result : Except Error (Option RoutingInfo)} (h : IsHarmless result) :
    (settle ((address, result) :: rest)).answer
      = (settle rest).answer.map (⟨address, infoOf result⟩ :: ·) := by
  cases result with
  | ok info =>
      rw [settle, Report.bind]
      cases (settle rest).answer <;> rfl
  | error e =>
      have htolerated : isTolerated e = true := by
        rw [← Bool.not_eq_false, isTolerated_eq_false]
        exact h e rfl
      rw [settle, if_pos htolerated]
      show ((settle rest).bind _).answer = _
      rw [Report.bind]
      cases (settle rest).answer <;> rfl

/-- A fatal error is what the results come to, whatever follows. -/
theorem settle_cons_of_isFatal {e : Error} (h : e.IsFatal) (address : Address) :
    (settle ((address, .error e) :: rest)).answer = .error e := by
  rw [settle, isTolerated_eq_false.mpr h]
  rfl

/-- **THE FIRST FATAL ERROR ENDS IT**, whatever the results behind it. -/
theorem settle_of_isFatal (hbefore : ∀ s ∈ before, IsHarmless s.2) {e : Error} (h : e.IsFatal)
    (address : Address) : (settle (before ++ (address, .error e) :: after)).answer = .error e := by
  induction before with
  | nil => exact settle_cons_of_isFatal h address
  | cons s before ih =>
      rw [List.cons_append, settle_cons_of_isHarmless (hbefore s List.mem_cons_self),
        ih (fun s' hs' => hbefore s' (List.mem_cons_of_mem s hs'))]
      rfl

/-- **ONE PROBE FOR EVERY RESULT**, if none of them is fatal. -/
theorem settle_of_forall (h : ∀ s ∈ slots, IsHarmless s.2) :
    (settle slots).answer = .ok (slots.map (fun s => ⟨s.1, infoOf s.2⟩)) := by
  induction slots with
  | nil => rfl
  | cons s slots ih =>
      rw [settle_cons_of_isHarmless (h s List.mem_cons_self),
        ih (fun s' hs' => h s' (List.mem_cons_of_mem s hs'))]
      rfl

-- ── At least one answer ────────────────────────────────────────────

/-- Probes without information are refused, and one line says so. -/
theorem requireAnswer_eq_of_forall {probes : List Probe} (h : ∀ p ∈ probes, p.info = none) :
    requireAnswer probes = ⟨.error noneError, [], [noneEvent probes.length]⟩ := by
  have hall : probes.all (fun p => p.info.isNone) = true := by
    rw [List.all_eq_true]
    intro p hp
    rw [h p hp]
    rfl
  rw [requireAnswer, if_pos hall]
  rfl

/-- Probes are accepted, without a line about them, if one of them has information. -/
theorem requireAnswer_eq_of_mem {probes : List Probe} {p : Probe} (hp : p ∈ probes)
    {info : RoutingInfo} (h : p.info = some info) : requireAnswer probes = .pure probes := by
  have hall : ¬ probes.all (fun p => p.info.isNone) = true := by
    intro hall
    have hnone := List.all_eq_true.mp hall p hp
    rw [h] at hnone
    exact nomatch hnone
  rw [requireAnswer, if_neg hall]

/-- Where nobody gave information the answer is that nobody did. -/
theorem requireAnswer_of_forall {probes : List Probe} (h : ∀ p ∈ probes, p.info = none) :
    (requireAnswer probes).answer = .error noneError :=
  congrArg Report.answer (requireAnswer_eq_of_forall h)

/-- Where somebody gave information the answer is all probes. -/
theorem requireAnswer_of_mem {probes : List Probe} {p : Probe} (hp : p ∈ probes)
    {info : RoutingInfo} (h : p.info = some info) :
    (requireAnswer probes).answer = .ok probes :=
  congrArg Report.answer (requireAnswer_eq_of_mem hp h)

end Verification

-- ── The results of routers ─────────────────────────────────────────

namespace Router

open Verification

variable {timeout : Duration} {r : Router} {result : Except Error (Option RoutingInfo)}

/-- The results that asking a router can come to: its own if it comes within the time allowed, and
    otherwise the error of a service that is not available, in any words. -/
inductive Gives (timeout : Duration) (r : Router) : Except Error (Option RoutingInfo) → Prop where
  | own {result : Except Error (Option RoutingInfo)}
      (htime : r.delayMillis * 1000000 ≤ timeout.totalNanos)
      (hreply : r.reply.result? = some result) : Gives timeout r result
  | late {detail : String}
      (hlate : timeout.totalNanos < r.delayMillis * 1000000 ∨ r.reply.result? = none) :
      Gives timeout r (.error (.serviceUnavailable detail))

/-- A router that is in time answers with its own result. -/
theorem answer_of_own (htime : r.delayMillis * 1000000 ≤ timeout.totalNanos)
    (hreply : r.reply.result? = some result) : r.answer timeout = result := by
  rw [answer, timely?, if_neg (Nat.not_lt.mpr htime), hreply]
  rfl

/-- A router that is too late, or never answers, comes to the error that names it. -/
theorem answer_of_late
    (hlate : timeout.totalNanos < r.delayMillis * 1000000 ∨ r.reply.result? = none) :
    r.answer timeout = .error (r.lateError timeout) := by
  have hnone : r.timely? timeout = none := by
    rw [timely?]
    rcases hlate with htime | hreply
    · exact if_pos htime
    · rw [hreply, ite_self]
  rw [answer, hnone]
  rfl

/-- What asking a router comes to is one of its results. -/
theorem gives_answer (timeout : Duration) (r : Router) : r.Gives timeout (r.answer timeout) := by
  by_cases hlate : timeout.totalNanos < r.delayMillis * 1000000 ∨ r.reply.result? = none
  · rw [answer_of_late hlate]
    exact .late hlate
  · obtain ⟨htime, hreply⟩ := not_or.mp hlate
    obtain ⟨result, hresult⟩ := Option.ne_none_iff_exists'.mp hreply
    rw [answer_of_own (Nat.not_lt.mp htime) hresult]
    exact .own (Nat.not_lt.mp htime) hresult

/-- **WORDS DO NOT MATTER**: any result of a router stands for any other one.  They hold the same
    information and the same fatal error, if any. -/
theorem Gives.infoOf_answer (h : r.Gives timeout result) :
    infoOf (r.answer timeout) = infoOf result := by
  cases h with
  | own htime hreply => rw [answer_of_own htime hreply]
  | late hlate =>
      rw [answer_of_late hlate]
      rfl

/-- A fatal error is the router's own, so it comes up word for word. -/
theorem Gives.answer_eq_of_isFatal {e : Error} (h : r.Gives timeout (.error e))
    (hfatal : e.IsFatal) : r.answer timeout = .error e := by
  cases h with
  | own htime hreply => exact answer_of_own htime hreply
  | late hlate => exact absurd hfatal (not_isFatal_serviceUnavailable _)

/-- If one result of a router leaves the others to decide, its answer does too. -/
theorem Gives.isHarmless_answer (h : r.Gives timeout result) (hharmless : IsHarmless result) :
    IsHarmless (r.answer timeout) := by
  cases h with
  | own htime hreply =>
      rw [answer_of_own htime hreply]
      exact hharmless
  | late hlate =>
      rw [answer_of_late hlate]
      intro e he
      cases he
      exact not_isFatal_serviceUnavailable _

end Router
end GraphLink

namespace GraphLink.Backend

open Verification

variable {b : Backend} {timeout : Duration} {result : Nat → Except Error (Option RoutingInfo)}

-- ── The results of a table ─────────────────────────────────────────

/-- Whether `result` holds one of the results of every router, by its place in the table. -/
def Gives (b : Backend) (timeout : Duration)
    (result : Nat → Except Error (Option RoutingInfo)) : Prop :=
  ∀ i (r : Router), b.routers[i]? = some r → r.Gives timeout (result i)

/-- The probes of all routers. -/
def probes (b : Backend) (timeout : Duration) : List Probe :=
  b.routers.map (fun r => ⟨r.address, infoOf (r.answer timeout)⟩)

/-- In a table that is split at the first fatal error, this error is what it comes to. -/
theorem settle_results_of_append {before after : List Router} {r : Router} {e : Error}
    (hsplit : b.routers = before ++ r :: after)
    (hbefore : ∀ r ∈ before, IsHarmless (r.answer timeout)) (hgives : r.Gives timeout (.error e))
    (hfatal : e.IsFatal) : (settle (b.results timeout)).answer = .error e := by
  rw [results, hsplit, List.map_append, List.map_cons, hgives.answer_eq_of_isFatal hfatal]
  refine settle_of_isFatal ?_ hfatal _
  intro s hs
  obtain ⟨r, hr, rfl⟩ := List.mem_map.mp hs
  exact hbefore r hr

/-- A table without a fatal error comes to one probe for every router. -/
theorem settle_results_of_isHarmless (h : ∀ r ∈ b.routers, IsHarmless (r.answer timeout)) :
    (settle (b.results timeout)).answer = .ok (b.probes timeout) := by
  have hall : ∀ s ∈ b.results timeout, IsHarmless s.2 := by
    intro s hs
    obtain ⟨r, hr, rfl⟩ := List.mem_map.mp hs
    exact h r hr
  rw [settle_of_forall hall, probes, results, List.map_map]
  rfl

/-- The first fatal error by the order of the table ends it, whichever results stand for the
    routers. -/
theorem settle_results_of_isFatal (h : b.Gives timeout result) {i : Nat}
    (hi : i < b.routers.length) {e : Error} (he : result i = .error e) (hfatal : e.IsFatal)
    (hbefore : ∀ j < i, IsHarmless (result j)) :
    (settle (b.results timeout)).answer = .error e := by
  have hgives := h i b.routers[i] (List.getElem?_eq_getElem hi)
  rw [he] at hgives
  have hsplit : b.routers = b.routers.take i ++ b.routers[i] :: b.routers.drop (i + 1) := by
    rw [List.getElem_cons_drop, List.take_append_drop]
  refine settle_results_of_append hsplit ?_ hgives hfatal
  intro r hr
  obtain ⟨j, hj, rfl⟩ := List.mem_take_iff_getElem.mp hr
  have hjlt : j < i := by omega
  exact (h j _ (List.getElem?_eq_getElem _)).isHarmless_answer (hbefore j hjlt)

/-- Without a fatal error among the results there is one probe for every router. -/
theorem settle_results_of_forall (h : b.Gives timeout result)
    (hharmless : ∀ i < b.routers.length, IsHarmless (result i)) :
    (settle (b.results timeout)).answer = .ok (b.probes timeout) := by
  refine settle_results_of_isHarmless ?_
  intro r hr
  obtain ⟨i, hi, rfl⟩ := List.mem_iff_getElem.mp hr
  exact (h i _ (List.getElem?_eq_getElem hi)).isHarmless_answer (hharmless i hi)

/-- A probe has the information in the result of its router. -/
theorem info_of_getElem?_probes (h : b.Gives timeout result) {i : Nat} {p : Probe}
    (hp : (b.probes timeout)[i]? = some p) : i < b.routers.length ∧ p.info = infoOf (result i) := by
  rw [probes, List.getElem?_map] at hp
  obtain ⟨r, hr, rfl⟩ := Option.map_eq_some_iff.mp hp
  obtain ⟨hi, -⟩ := List.getElem?_eq_some_iff.mp hr
  exact ⟨hi, (h i r hr).infoOf_answer⟩

end GraphLink.Backend

namespace GraphLink.Driver

open Verification

variable {b : Backend} {d : Driver} {o : Options} {w : WorkspaceConfig} {initial : List Address}
  {context : RoutingContext} {result : Nat → Except Error (Option RoutingInfo)}

-- ── The outcome ────────────────────────────────────────────────────

/-- An open driver for a cluster looks at the options first. -/
theorem verify_of_open (hopen : d.isOpen = true) (hrouting : d.endpoint = .routing initial context)
    (b : Backend) (o : Options) :
    d.verify b o = Connectivity.routers <$>
      (Report.ofExcept
        ((WorkspaceConfig.layer.consumeOver d.workspace o).mapError Options.Fault.toError)
        >>= Verification.run b d.pool) := by
  rw [verify, hrouting]
  show Connectivity.routers <$> d.verifyRouters b o = _
  rw [verifyRouters, ensureOpen, if_pos hopen]
  rfl

/-- Options that do not make a workspace are refused, and nothing is done. -/
theorem verify_of_fault {fault : Options.Fault} (hopen : d.isOpen = true)
    (hrouting : d.endpoint = .routing initial context)
    (hfault : WorkspaceConfig.layer.consumeOver d.workspace o = .error fault) (b : Backend) :
    d.verify b o = .fail fault.toError := by
  rw [verify_of_open hopen hrouting, hfault]
  rfl

/-- Otherwise the routers are asked on behalf of the driver's workspace, with the options on top. -/
theorem verify_of_config (hopen : d.isOpen = true)
    (hrouting : d.endpoint = .routing initial context)
    (hconfig : WorkspaceConfig.layer.consumeOver d.workspace o = .ok w) (b : Backend) :
    d.verify b o = Connectivity.routers <$> Verification.run b d.pool w := by
  rw [verify_of_open hopen hrouting, hconfig]
  rfl

/-- An open routing driver goes through the results of all routers. -/
theorem answer_verify (hopen : d.isOpen = true) (hrouting : d.endpoint = .routing initial context)
    (hconfig : WorkspaceConfig.layer.consumeOver d.workspace o = .ok w) :
    (d.verify b o).answer
      = (((settle (b.results w.connectionAcquisitionTimeout)).bind requireAnswer).answer).map
          Connectivity.routers := by
  rw [verify_of_config hopen hrouting hconfig, Report.answer_map]
  rfl

/-- **THE OUTCOME OF A VERIFICATION**, by the results of the routers: the first fatal error; the
    error that nobody answered; or the probes of all routers, in the order of the table. -/
theorem verify_routing (hopen : d.isOpen = true)
    (hrouting : d.endpoint = .routing initial context)
    (hconfig : WorkspaceConfig.layer.consumeOver d.workspace o = .ok w)
    (hresult : b.Gives w.connectionAcquisitionTimeout result) :
    (∀ i < b.routers.length, ∀ e, result i = .error e → e.IsFatal →
        (∀ j < i, IsHarmless (result j)) → (d.verify b o).answer = .error e)
      ∧ ((∀ i < b.routers.length, IsHarmless (result i)) →
          (∀ i < b.routers.length, ∀ info, result i ≠ .ok (some info)) →
          (d.verify b o).answer
            = .error (.serviceUnavailable "Could not connect to any routing servers."))
      ∧ ((∀ i < b.routers.length, IsHarmless (result i)) →
          (∃ i < b.routers.length, ∃ info, result i = .ok (some info)) →
          ∃ probes, (d.verify b o).answer = .ok (.routers probes)
            ∧ probes.map Probe.address = b.table.routers
            ∧ ∀ i p, probes[i]? = some p →
                ∀ info, p.info = some info ↔ result i = .ok (some info)) := by
  rw [answer_verify hopen hrouting hconfig]
  refine ⟨?_, ?_, ?_⟩
  · intro i hi e he hfatal hbefore
    rw [Report.bind_of_error (Backend.settle_results_of_isFatal hresult hi he hfatal hbefore)]
    rfl
  -- All routers are gone through, and none of them leaves information behind.
  · intro hharmless hnone
    have hprobes : ∀ p ∈ b.probes w.connectionAcquisitionTimeout, p.info = none := by
      intro p hp
      obtain ⟨i, hi⟩ := List.mem_iff_getElem?.mp hp
      obtain ⟨hlt, hinfo⟩ := Backend.info_of_getElem?_probes hresult hi
      rw [hinfo, Option.eq_none_iff_forall_ne_some]
      intro info hsome
      exact hnone i hlt info (infoOf_eq_some.mp hsome)
    rw [Report.bind_of_ok (Backend.settle_results_of_forall hresult hharmless),
      requireAnswer_of_forall hprobes]
    rfl
  -- The probe in the place of the router that answers is what keeps the verification from failing.
  · rintro hharmless ⟨i, hi, info, hinfo⟩
    have hlength : i < (b.probes w.connectionAcquisitionTimeout).length := by
      rw [Backend.probes, List.length_map]
      exact hi
    have hget := List.getElem?_eq_getElem hlength
    obtain ⟨-, hprobe⟩ := Backend.info_of_getElem?_probes hresult hget
    rw [infoOf_eq_some.mpr hinfo] at hprobe
    refine ⟨b.probes w.connectionAcquisitionTimeout, ?_, ?_, ?_⟩
    · rw [Report.bind_of_ok (Backend.settle_results_of_forall hresult hharmless),
        requireAnswer_of_mem (List.getElem_mem hlength) hprobe]
      rfl
    · rw [Backend.probes, List.map_map]
      rfl
    · intro j p hp info'
      obtain ⟨-, hinfo'⟩ := Backend.info_of_getElem?_probes hresult hp
      rw [hinfo']
      exact infoOf_eq_some

/-- Routers that refuse, come too late, come just in time and never answer, if a second is allowed;
    the last two share an address. -/
def mixedCluster : Backend where
  routers := [
    ⟨⟨"a", 7687⟩, 0, .failure (.server "Neo.ClientError" "no")⟩,
    ⟨⟨"b", 7687⟩, 1001, .failure (.configuration "bad")⟩,
    ⟨⟨"c", 7687⟩, 1000, .info ⟨[], .seconds 300, none⟩⟩,
    ⟨⟨"c", 7687⟩, 0, .silence⟩]

/-- Results of these routers. -/
def mixedResult : Nat → Except Error (Option RoutingInfo)
  | 0 => .error (.server "Neo.ClientError" "no")
  | 2 => .ok (some ⟨[], .seconds 300, none⟩)
  | _ => .error (.serviceUnavailable "no answer")

/-- A routing driver with standard settings. -/
def standardDriver : Driver where
  pool := 0
  endpoint := .routing [] SortedMap.empty
  config := ⟨{}, {}⟩

/-- The option of one second for a connection. -/
def oneSecond : Options :=
  SortedMap.empty.insert "connection_acquisition_timeout" (.int 1)

/-- The outcome where one router out of four answers. -/
theorem verify_routing_mixed :
    mixedCluster.Gives (.seconds 1) mixedResult
      ∧ ∃ probes, (standardDriver.verify mixedCluster oneSecond).answer = .ok (.routers probes)
        ∧ probes.map Probe.address = [⟨"a", 7687⟩, ⟨"b", 7687⟩, ⟨"c", 7687⟩, ⟨"c", 7687⟩]
        ∧ ∀ (i : Nat) (p : Probe), probes[i]? = some p →
            ∀ info, p.info = some info ↔ mixedResult i = .ok (some info) := by
  have hgives : mixedCluster.Gives (.seconds 1) mixedResult := by
    intro i r hr
    rcases i with _ | _ | _ | _ | i
    · cases hr
      exact .own (by decide) rfl
    · cases hr
      exact .late (.inl (by decide))
    · cases hr
      exact .own (by decide) rfl
    · cases hr
      exact .late (.inr rfl)
    · exact nomatch hr
  have hharmless : ∀ i < mixedCluster.routers.length, IsHarmless (mixedResult i) := by
    intro i _ e he
    rcases i with _ | _ | _ | i
    · cases he
      exact fun h => h.2.2 _ _ rfl
    · cases he
      exact not_isFatal_serviceUnavailable _
    · exact nomatch he
    · cases he
      exact not_isFatal_serviceUnavailable _
  have hopen : standardDriver.isOpen = true := rfl
  have hrouting : standardDriver.endpoint = .routing [] SortedMap.empty := rfl
  have hconfig : WorkspaceConfig.layer.consumeOver standardDriver.workspace oneSecond
      = .ok { connectionAcquisitionTimeout := .seconds 1 } := rfl
  obtain ⟨-, -, hprobes⟩ := verify_routing hopen hrouting hconfig hgives
  exact ⟨hgives, hprobes hharmless ⟨2, by decide, _, rfl⟩⟩

end GraphLink.Driver
