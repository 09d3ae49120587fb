import GraphLink.Client.Opening

/-! # Which errors an operation can end in

    `FailsOnly p r` says that a report has an answer, or an error that satisfies `p`.  It passes
    through chains, so what an operation can end in is read off its stages: each stage reports
    faults of its own kind, and each kind of fault becomes errors of few categories. -/

namespace GraphLink.Report

variable {α β ε : Type} {p : Error → Prop}

/-- Every error of the report satisfies `p`. -/
def FailsOnly (p : Error → Prop) (r : Report α) : Prop :=
  ∀ e, r.answer = .error e → p e

theorem failsOnly_pure (a : α) : FailsOnly p (Pure.pure a : Report α) :=
  fun _ h => nomatch h

theorem failsOnly_note (e : Event) : FailsOnly p (Report.note e) :=
  fun _ h => nomatch h

/-- A failure ends in its own error. -/
theorem failsOnly_fail {e : Error} (h : p e) : FailsOnly p (Report.fail e : Report α) := by
  intro e' he
  cases he
  exact h

/-- **ERRORS PASS THROUGH CHAINS**: a chain ends in an error of its first part or of its second. -/
theorem failsOnly_bind {r : Report α} {next : α → Report β} (hr : FailsOnly p r)
    (hnext : ∀ a, r.answer = .ok a → FailsOnly p (next a)) : FailsOnly p (r >>= next) := by
  intro e he
  cases hanswer : r.answer with
  | error e' =>
      have hbind : (r.bind next).answer = .error e' := by
        rw [bind_of_error hanswer]
      have heq : (r.bind next).answer = .error e := he
      rw [hbind] at heq
      cases heq
      exact hr e hanswer
  | ok a =>
      have hbind : (r.bind next).answer = (next a).answer := by
        rw [bind_of_ok hanswer]
      have heq : (r.bind next).answer = .error e := he
      rw [hbind] at heq
      exact hnext a hanswer e heq

/-- A check ends in the error that its fault becomes. -/
theorem failsOnly_check {toError : ε → Error} (h : ∀ fault, p (toError fault))
    (r : Except ε α) : FailsOnly p (Opening.check toError r) := by
  intro e he
  cases r with
  | error fault =>
      cases he
      exact h fault
  | ok a => exact nomatch he

/-- A check of something sound cannot fail. -/
theorem failsOnly_check_ok {toError : ε → Error} {r : Except ε α} {a : α} (h : r = .ok a) :
    FailsOnly p (Opening.check toError r) := by
  intro e he
  rw [h] at he
  exact nomatch he

/-- A call on the connector ends in the error that the fault of the transport becomes. -/
theorem failsOnly_callConnector (h : ∀ fault : TransportFault, p fault.toError) (b : Backend)
    (c : Bool → Call) (target : String) : FailsOnly p (Opening.callConnector b c target) := by
  intro e he
  rw [Opening.callConnector] at he
  split at he
  · exact nomatch he
  · rename_i fault _
    cases he
    exact h fault

end GraphLink.Report

namespace GraphLink

/-- Whether an error is about an address or a URI. -/
def Error.IsAddressFault (e : Error) : Prop :=
  ∃ detail, e = .malformedAddress detail

/-- No fault in options is about an address. -/
theorem Options.Fault.not_isAddressFault (fault : Options.Fault) :
    ¬ fault.toError.IsAddressFault := by
  rintro ⟨detail, h⟩
  cases fault <;> exact nomatch h

/-- No fault in a context is about an address. -/
theorem RoutingContext.Fault.not_isAddressFault (fault : RoutingContext.Fault) :
    ¬ fault.toError.IsAddressFault :=
  fun ⟨_, h⟩ => nomatch h

/-- No fault of the transport is about an address. -/
theorem TransportFault.not_isAddressFault (fault : TransportFault) :
    ¬ fault.toError.IsAddressFault := by
  rintro ⟨detail, h⟩
  cases fault <;> exact nomatch h

end GraphLink

namespace GraphLink.Opening

open Report

/-- Where the target names an address, opening a driver for one server ends in no error about an
    address. -/
theorem direct_failsOnly {target : String} {address : Address}
    (htarget : Address.parseTarget target = .ok address) (b : Backend) (pool : Nat)
    (auth : AuthToken) (o : Options) :
    FailsOnly (fun e => ¬ e.IsAddressFault) (direct b pool target auth o) := by
  refine failsOnly_bind (failsOnly_check_ok htarget) (fun _ _ => ?_)
  refine failsOnly_bind (failsOnly_check Options.Fault.not_isAddressFault _) (fun _ _ => ?_)
  refine failsOnly_bind ?_ (fun _ _ => ?_)
  · exact failsOnly_callConnector TransportFault.not_isAddressFault _ _ _
  · exact failsOnly_bind (failsOnly_note _) (fun _ _ => failsOnly_pure _)

/-- Where the targets name addresses, opening a driver for a cluster ends in no error about an
    address. -/
theorem routing_failsOnly {targets : List String} {addresses : List Address}
    (htargets : Address.parseTargets targets = .ok addresses) (b : Backend) (pool : Nat)
    (auth : AuthToken) (context : RoutingContext) (o : Options) :
    FailsOnly (fun e => ¬ e.IsAddressFault) (routing b pool targets auth context o) := by
  refine failsOnly_bind (failsOnly_check_ok htargets) (fun _ _ => ?_)
  refine failsOnly_bind (failsOnly_check RoutingContext.Fault.not_isAddressFault _)
    (fun _ _ => ?_)
  refine failsOnly_bind (failsOnly_check Options.Fault.not_isAddressFault _) (fun _ _ => ?_)
  refine failsOnly_bind ?_ (fun _ _ => ?_)
  · exact failsOnly_callConnector TransportFault.not_isAddressFault _ _ _
  · exact failsOnly_bind (failsOnly_note _) (fun _ _ => failsOnly_pure _)

/-- **NO ADDRESS FAULT BEHIND THE CLASSIFICATION**: where the network location of a classified URI
    names addresses, opening a driver for the URI ends in no error about an address. -/
theorem uri_failsOnly {text : String} {c : ConnectionUri} {address : Address}
    {addresses : List Address} (hclassify : ConnectionUri.classify text = .ok c)
    (htarget : Address.parseTarget c.netloc = .ok address)
    (htargets : Address.parseTargets [c.netloc] = .ok addresses) (b : Backend) (pool : Nat)
    (auth : AuthToken) (o : Options) :
    FailsOnly (fun e => ¬ e.IsAddressFault) (uri b pool text auth o) := by
  have hread : (classify text).answer = .ok c := by
    rw [classify, check]
    rw [hclassify]
    rfl
  refine failsOnly_bind (fun e he => by rw [hread] at he; exact nomatch he) (fun c' hc' => ?_)
  rw [hread] at hc'
  cases hc'
  refine failsOnly_bind (failsOnly_check Options.Fault.not_isAddressFault _) (fun o' _ => ?_)
  refine failsOnly_bind (failsOnly_check RoutingContext.Fault.not_isAddressFault _)
    (fun context _ => ?_)
  cases c.kind with
  | direct =>
      by_cases hempty : context.isEmpty = true
      · simp only [hempty, if_true]
        exact direct_failsOnly htarget b pool auth o'
      · simp only [hempty, Bool.false_eq_true, if_false]
        exact failsOnly_fail (fun ⟨_, h⟩ => nomatch h)
  | routing => exact routing_failsOnly htargets b pool auth context o'

end GraphLink.Opening
