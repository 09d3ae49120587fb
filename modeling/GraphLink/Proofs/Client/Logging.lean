import GraphLink.Proofs.Client.Connectivity
import Mathlib.Data.List.Forall2

/-! # What a verification writes down

    Verifying a cluster begins with a line that counts the routers.  Then every router up to the
    first fatal error has its own lines (`Router.Logs`): one if it failed or came too late, and none
    if it answered, with or without information.  A warning stands at the end exactly if the
    verification fails because nobody gave any (`Verification.Ends`, `Driver.verify_writes_down`).

    Going through the results writes the lines of one router before those of the next
    (`Router.Logs.log_settle`), so the lines of a whole table follow by induction on its routers
    (`Verification.exists_lines`). -/

namespace GraphLink

variable {timeout : Duration} {r : Router} {routers before after : List Router}
  {lines : List Event} {groups : List (List Event)} {e : Error}

-- ── One result ─────────────────────────────────────────────────────

namespace Verification

variable {address : Address} {rest : List (Address × Except Error (Option RoutingInfo))}

/-- A router that answers writes no line. -/
theorem log_settle_of_ok (info : Option RoutingInfo) :
    (settle ((address, .ok info) :: rest)).log = (settle rest).log := by
  rw [settle]
  exact Report.log_map (Probe.mk address info :: ·) (settle rest)

/-- An error that is not fatal is one line, in front of those of the rest. -/
theorem log_settle_of_harmless (h : ¬ e.IsFatal) :
    (settle ((address, .error e) :: rest)).log = silentEvent address e :: (settle rest).log := by
  have htolerated : isTolerated e = true := by
    rw [← Bool.not_eq_false, isTolerated_eq_false]
    exact h
  rw [settle, if_pos htolerated]
  exact congrArg (silentEvent address e :: ·)
    (Report.log_map (Probe.mk address none :: ·) (settle rest))

/-- A fatal error is reported and not written down. -/
theorem log_settle_of_isFatal (h : e.IsFatal) :
    (settle ((address, .error e) :: rest)).log = [] := by
  rw [settle, isTolerated_eq_false.mpr h]
  rfl

end Verification

-- ── One router ─────────────────────────────────────────────────────

namespace Router

open Verification

/-- The lines that a router is worth, if it does not end the verification: none for an answer in
    time, with or without information, and one with its address and its error for an error, or for
    an answer that comes too late or not at all. -/
inductive Logs (timeout : Duration) (r : Router) : List Event → Prop where
  | answered {info : Option RoutingInfo} (htime : r.delayMillis * 1000000 ≤ timeout.totalNanos)
      (hreply : r.reply.result? = some (.ok info)) : Logs timeout r []
  | failed {e : Error} (htime : r.delayMillis * 1000000 ≤ timeout.totalNanos)
      (hreply : r.reply.result? = some (.error e)) (hharmless : ¬ e.IsFatal) :
      Logs timeout r [⟨.debug, "Router did not answer",
        [("router", r.address.text), ("error", e.message)]⟩]
  | late (hlate : timeout.totalNanos < r.delayMillis * 1000000 ∨ r.reply.result? = none) :
      Logs timeout r [⟨.debug, "Router did not answer",
        [("router", r.address.text), ("error", "Service unavailable: " ++ ("Timed out after "
          ++ timeout.text ++ " fetching routing info from " ++ r.address.text))]⟩]

/-- Every router has its lines, unless its error is fatal. -/
theorem fails_or_logs (timeout : Duration) (r : Router) :
    (∃ e, r.Gives timeout (.error e) ∧ e.IsFatal) ∨ ∃ lines, r.Logs timeout lines := by
  by_cases hlate : timeout.totalNanos < r.delayMillis * 1000000 ∨ r.reply.result? = none
  · exact .inr ⟨_, .late hlate⟩
  · obtain ⟨htime, hreply⟩ := not_or.mp hlate
    have hintime := Nat.not_lt.mp htime
    obtain ⟨result, hresult⟩ := Option.ne_none_iff_exists'.mp hreply
    cases result with
    | ok info => exact .inr ⟨_, .answered hintime hresult⟩
    | error e =>
        by_cases hfatal : e.IsFatal
        · exact .inl ⟨e, .own hintime hresult, hfatal⟩
        · exact .inr ⟨_, .failed hintime hresult hfatal⟩

namespace Logs

/-- **ONE ROUTER BEFORE THE NEXT**: the lines of a router come first, then those of the rest. -/
theorem log_settle (h : r.Logs timeout lines)
    (rest : List (Address × Except Error (Option RoutingInfo))) :
    (settle ((r.address, r.answer timeout) :: rest)).log = lines ++ (settle rest).log := by
  cases h with
  | answered htime hreply =>
      rw [answer_of_own htime hreply]
      exact log_settle_of_ok _
  | failed htime hreply hharmless =>
      rw [answer_of_own htime hreply]
      exact log_settle_of_harmless hharmless
  | late hlate =>
      rw [answer_of_late hlate]
      exact log_settle_of_harmless (not_isFatal_serviceUnavailable _)

/-- A router that has lines does not end the verification. -/
theorem isHarmless (h : r.Logs timeout lines) : IsHarmless (r.answer timeout) := by
  intro e he
  cases h with
  | answered htime hreply =>
      rw [answer_of_own htime hreply] at he
      cases he
  | failed htime hreply hharmless =>
      rw [answer_of_own htime hreply] at he
      cases he
      exact hharmless
  | late hlate =>
      rw [answer_of_late hlate] at he
      cases he
      exact not_isFatal_serviceUnavailable _

/-- The lines of a router are for debugging only. -/
theorem level (h : r.Logs timeout lines) : ∀ line ∈ lines, line.level = .debug := by
  intro line hline
  cases h with
  | answered => cases hline
  | failed => rw [List.mem_singleton.mp hline]
  | late => rw [List.mem_singleton.mp hline]

end Logs
end Router

-- ── A table of routers ─────────────────────────────────────────────

namespace Verification

open Router

/-- **EVERY ROUTER HAS ITS LINES**, up to the first whose error is fatal. -/
theorem exists_lines (timeout : Duration) (routers : List Router) :
    ∃ before after groups, routers = before ++ after
      ∧ List.Forall₂ (Logs timeout) before groups
      ∧ (after = [] ∨ ∃ r rest e, after = r :: rest ∧ r.Gives timeout (.error e) ∧ e.IsFatal)
      ∧ (settle (routers.map (fun r => (r.address, r.answer timeout)))).log = groups.flatten := by
  induction routers with
  | nil => exact ⟨[], [], [], rfl, .nil, .inl rfl, rfl⟩
  | cons r routers ih =>
      rcases r.fails_or_logs timeout with ⟨e, hgives, hfatal⟩ | ⟨lines, hlines⟩
      · refine ⟨[], r :: routers, [], rfl, .nil, .inr ⟨r, routers, e, rfl, hgives, hfatal⟩, ?_⟩
        rw [List.map_cons, hgives.answer_eq_of_isFatal hfatal]
        exact log_settle_of_isFatal hfatal
      · obtain ⟨before, after, groups, rfl, hgroups, hend, hlog⟩ := ih
        refine ⟨r :: before, after, lines :: groups, rfl, .cons hlines hgroups, hend, ?_⟩
        rw [List.map_cons, hlines.log_settle, hlog, List.flatten_cons]

/-- None of the routers that have lines ends the verification. -/
theorem isHarmless_of_forall₂ (h : List.Forall₂ (Logs timeout) before groups) :
    ∀ r ∈ before, IsHarmless (r.answer timeout) := by
  have hboth : List.Forall₂ (fun r lines => IsHarmless (r.answer timeout) ∧ r.Logs timeout lines)
      before groups := h.imp (fun _ _ hlines => ⟨hlines.isHarmless, hlines⟩)
  exact ((List.forall₂_and_left before groups).mp hboth).1

/-- The lines of all routers are for debugging only. -/
theorem level_of_forall₂ (h : List.Forall₂ (Logs timeout) before groups) :
    ∀ line ∈ groups.flatten, line.level = .debug := by
  intro line hline
  induction h with
  | nil => cases hline
  | cons hlines _ ih =>
      rcases List.mem_append.mp hline with hfirst | hrest
      · exact hlines.level line hfirst
      · exact ih hrest

-- ── The end ────────────────────────────────────────────────────────

/-- How a verification ends, by what is left of the routers from the first fatal error on: with that
    error, if there is one; otherwise with probes, if a router gave information, or with the error
    that nobody did, and then with a warning that counts the routers. -/
inductive Ends (timeout : Duration) (routers : List Router) :
    List Router → Except Error Connectivity → List Event → Prop where
  | broken {r : Router} {rest : List Router} {e : Error} (hgives : r.Gives timeout (.error e))
      (hfatal : e.IsFatal) : Ends timeout routers (r :: rest) (.error e) []
  | answered {r : Router} {info : RoutingInfo} {probes : List Probe} (hr : r ∈ routers)
      (hgives : r.Gives timeout (.ok (some info))) :
      Ends timeout routers [] (.ok (.routers probes)) []
  | unanswered (hnone : ∀ r ∈ routers, ∀ info, ¬ r.Gives timeout (.ok (some info))) :
      Ends timeout routers []
        (.error (.serviceUnavailable "Could not connect to any routing servers."))
        [⟨.warn, "No routing server answered",
          [("routers", String.ofList (Text.decimal routers.length))]⟩]

variable {answer : Except Error Connectivity} {ending : List Event}

/-- The warning stands for the error that nobody answered, and for no other. -/
theorem Ends.eq_nil_or (h : Ends timeout routers after answer ending) :
    (answer ≠ .error noneError ∧ ending = [])
      ∨ (answer = .error noneError ∧ ending = [noneEvent routers.length]) := by
  cases h with
  | broken hgives hfatal =>
      refine .inl ⟨?_, rfl⟩
      rintro heq
      cases heq
      exact not_isFatal_serviceUnavailable _ hfatal
  | answered =>
      refine .inl ⟨?_, rfl⟩
      intro heq
      cases heq
  | unanswered => exact .inr ⟨rfl, rfl⟩

/-- The line that nobody gave information stands where that is the answer, and nowhere else. -/
theorem Ends.mem_iff (h : Ends timeout routers after answer ending) :
    noneEvent routers.length ∈ ending ↔ answer = .error noneError := by
  rcases h.eq_nil_or with ⟨hne, rfl⟩ | ⟨heq, rfl⟩
  · exact iff_of_false List.not_mem_nil hne
  · exact iff_of_true (List.mem_singleton_self _) heq

variable {b : Backend}

/-- Without a fatal error it is the information of the routers that decides. -/
theorem ends_of_forall (h : ∀ r ∈ b.routers, IsHarmless (r.answer timeout)) :
    ∃ ending, Ends timeout b.routers []
        (((settle (b.results timeout)).bind requireAnswer).answer.map Connectivity.routers) ending
      ∧ ((settle (b.results timeout)).bind requireAnswer).log
        = (settle (b.results timeout)).log ++ ending := by
  rw [Report.bind_of_ok (Backend.settle_results_of_isHarmless h)]
  by_cases hinfo : ∃ r ∈ b.routers, ∃ info, r.Gives timeout (.ok (some info))
  · obtain ⟨r, hr, info, hgives⟩ := hinfo
    have hprobe : Probe.mk r.address (infoOf (r.answer timeout)) ∈ b.probes timeout :=
      List.mem_map_of_mem hr
    rw [requireAnswer_eq_of_mem hprobe hgives.infoOf_answer]
    exact ⟨[], .answered hr hgives, rfl⟩
  -- Nobody gave information, so no probe holds any.
  · have hnone : ∀ r ∈ b.routers, ∀ info, ¬ r.Gives timeout (.ok (some info)) := by
      intro r hr info hgives
      exact hinfo ⟨r, hr, info, hgives⟩
    have hprobes : ∀ p ∈ b.probes timeout, p.info = none := by
      intro p hp
      obtain ⟨r, hr, rfl⟩ := List.mem_map.mp hp
      rw [Option.eq_none_iff_forall_ne_some]
      intro info hsome
      have hanswer : r.answer timeout = .ok (some info) := infoOf_eq_some.mp hsome
      have hgives := r.gives_answer timeout
      rw [hanswer] at hgives
      exact hnone r hr info hgives
    have hlength : (b.probes timeout).length = b.routers.length := List.length_map _
    rw [requireAnswer_eq_of_forall hprobes, hlength]
    exact ⟨_, .unanswered hnone, rfl⟩

/-- **EVERY TABLE HAS ITS LINES AND ITS END.** -/
theorem exists_ending (timeout : Duration) (b : Backend) :
    ∃ before after groups ending, b.routers = before ++ after
      ∧ List.Forall₂ (Logs timeout) before groups
      ∧ Ends timeout b.routers after
        (((settle (b.results timeout)).bind requireAnswer).answer.map Connectivity.routers) ending
      ∧ ((settle (b.results timeout)).bind requireAnswer).log = groups.flatten ++ ending := by
  obtain ⟨before, after, groups, hsplit, hgroups, hend, hlog⟩ := exists_lines timeout b.routers
  have hharmless := isHarmless_of_forall₂ hgroups
  -- The table has been gone through, or a fatal error has cut it short.
  rcases hend with rfl | ⟨r, rest, e, rfl, hgives, hfatal⟩
  · have hall : b.routers = before := hsplit.trans (List.append_nil before)
    rw [← hall] at hharmless
    obtain ⟨ending, hends, hending⟩ := ends_of_forall hharmless
    refine ⟨before, [], groups, ending, hsplit, hgroups, hends, ?_⟩
    rw [hending, Backend.results, hlog]
  · have hsettle := Backend.settle_results_of_append hsplit hharmless hgives hfatal
    rw [Report.bind_of_error hsettle]
    refine ⟨before, r :: rest, groups, [], hsplit, hgroups, .broken hgives hfatal, ?_⟩
    rw [Backend.results, hlog, List.append_nil]

end Verification

namespace Driver

open Router Verification

variable {d : Driver} {o : Options} {w : WorkspaceConfig} {initial : List Address}
  {context : RoutingContext}

/-- **NO ROUTER FAILS UNSEEN.**  A verification whose options are those of a workspace writes down
    how many routers there are, then the lines of each router that comes before the first fatal
    error, in the order of the table, and at the end a warning exactly if it fails because no router
    gave information. -/
theorem verify_writes_down (hopen : d.isOpen = true)
    (hrouting : d.endpoint = .routing initial context)
    (hconfig : WorkspaceConfig.layer.consumeOver d.workspace o = .ok w) (b : Backend) :
    ∃ before after groups ending, b.routers = before ++ after
      ∧ List.Forall₂ (Logs w.connectionAcquisitionTimeout) before groups
      ∧ Ends w.connectionAcquisitionTimeout b.routers after (d.verify b o).answer ending
      ∧ (d.verify b o).log
        = ⟨.debug, "Verifying connectivity of routing servers",
            [("routers", String.ofList (Text.decimal b.routers.length))]⟩
          :: (groups.flatten ++ ending)
      ∧ (⟨.warn, "No routing server answered",
            [("routers", String.ofList (Text.decimal b.routers.length))]⟩ ∈ (d.verify b o).log
          ↔ (d.verify b o).answer
            = .error (.serviceUnavailable "Could not connect to any routing servers.")) := by
  obtain ⟨before, after, groups, ending, hsplit, hgroups, hends, hlog⟩ :=
    exists_ending w.connectionAcquisitionTimeout b
  have hanswer := answer_verify (b := b) hopen hrouting hconfig
  have hwhole : (d.verify b o).log
      = startEvent b.routers.length :: (groups.flatten ++ ending) := by
    rw [verify_of_config hopen hrouting hconfig, Report.log_map, ← hlog,
      ← List.length_map Router.address]
    rfl
  rw [← hanswer] at hends
  refine ⟨before, after, groups, ending, hsplit, hgroups, hends, hwhole, Iff.trans ?_ hends.mem_iff⟩
  rw [hwhole]
  constructor
  · intro hmem
    -- All lines before the end are of a lower level.
    rcases List.mem_cons.mp hmem with heq | hmem
    · cases heq
    · rcases List.mem_append.mp hmem with hmem | hmem
      · have hlevel := level_of_forall₂ hgroups _ hmem
        cases hlevel
      · exact hmem
  · intro hmem
    exact List.mem_cons_of_mem _ (List.mem_append_right _ hmem)

/-- Routers that refuse, never answer and fail for good, and one more behind them. -/
def failingCluster : Backend where
  routers := [
    ⟨⟨"a", 7687⟩, 0, .failure (.server "Neo.ClientError" "no")⟩,
    ⟨⟨"b", 7687⟩, 0, .silence⟩,
    ⟨⟨"c", 7687⟩, 0, .empty⟩,
    ⟨⟨"d", 7687⟩, 0, .failure (.configuration "bad")⟩,
    ⟨⟨"e", 7687⟩, 0, .failure (.sessionExpired "old")⟩]

/-- Two lines for these routers: none for the one that answers without information, and none from
    the fatal error on. -/
theorem verify_writes_down_failing :
    (standardDriver.verify failingCluster oneSecond).log
        = [⟨.debug, "Verifying connectivity of routing servers", [("routers", "5")]⟩,
          ⟨.debug, "Router did not answer",
            [("router", "a:7687"), ("error", "Server error: Neo.ClientError - no")]⟩,
          ⟨.debug, "Router did not answer",
            [("router", "b:7687"),
              ("error",
                "Service unavailable: Timed out after 1s fetching routing info from b:7687")]⟩]
      ∧ ∃ before after groups ending, failingCluster.routers = before ++ after
        ∧ List.Forall₂ (Logs (.seconds 1)) before groups
        ∧ Ends (.seconds 1) failingCluster.routers after (.error (.configuration "bad")) ending
        ∧ (standardDriver.verify failingCluster oneSecond).log
          = ⟨.debug, "Verifying connectivity of routing servers", [("routers", "5")]⟩
            :: (groups.flatten ++ ending) := by
  have hopen : standardDriver.isOpen = true := rfl
  have hrouting : standardDriver.endpoint = .routing [] SortedMap.empty := rfl
  have hconfig : WorkspaceConfig.layer.consumeOver standardDriver.workspace oneSecond
      = .ok { connectionAcquisitionTimeout := .seconds 1 } := rfl
  obtain ⟨before, after, groups, ending, hsplit, hgroups, hends, hlog, -⟩ :=
    verify_writes_down hopen hrouting hconfig failingCluster
  exact ⟨by rfl, before, after, groups, ending, hsplit, hgroups, hends, hlog⟩

end Driver
end GraphLink
