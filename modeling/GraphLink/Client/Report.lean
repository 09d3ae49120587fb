import GraphLink.Address.Basic
import GraphLink.Client.Auth
import GraphLink.Config.Chain
import GraphLink.Connection.RoutingContext
import GraphLink.Event

/-! # Reports — what an operation answers, calls and logs

    The operations of a client are pure functions to a `Report`: the answer, the calls made on
    pools and the lines written to the log, both in order.  Operations are chained with `do`: an
    error ends the chain, and what was called and logged up to it stays in the report.  Only what
    `thenCall` adds is done on every path. -/

namespace GraphLink

/-- A call on the connector, which opens pools, or on a pool.  Pools are numbered in the order in
    which they were opened. -/
inductive Call where
  /-- A pool for one server was asked for. -/
  | openDirect (address : Address) (auth : AuthToken) (config : DriverConfig) (failed : Bool)
  /-- A pool for a cluster was asked for. -/
  | openRouting (addresses : List Address) (auth : AuthToken) (context : RoutingContext)
      (config : DriverConfig) (failed : Bool)
  /-- A connection was asked for. -/
  | acquire (pool : Nat) (mode : AccessMode) (database : Option String) (timeout : Duration)
  /-- A query was sent on the connection that was acquired last. -/
  | run (pool : Nat) (query : String) (config : SessionConfig)
  /-- A connection was given back. -/
  | release (pool : Nat)
  /-- All connections were to be closed. -/
  | close (pool : Nat)
  /-- A router was asked for routing information. -/
  | fetch (pool : Nat) (router : Address) (database user : Option String) (bookmarks : Nat)
      (timeout : Duration)
  deriving DecidableEq

/-- What an operation answers, calls and logs. -/
structure Report (α : Type) where
  answer : Except Error α
  calls : List Call
  log : List Event

namespace Report

variable {α β : Type}

/-- Answers, and does nothing. -/
def pure (a : α) : Report α := ⟨.ok a, [], []⟩

/-- Fails, and does nothing. -/
def fail (e : Error) : Report α := ⟨.error e, [], []⟩

/-- Goes on with an answer; an error stays as it is. -/
def bind (r : Report α) (next : α → Report β) : Report β :=
  match r.answer with
  | .error e => ⟨.error e, r.calls, r.log⟩
  | .ok a =>
      let s := next a
      ⟨s.answer, r.calls ++ s.calls, r.log ++ s.log⟩

instance : Monad Report where
  pure := Report.pure
  bind := Report.bind

/-- The answer of a computation that calls and logs nothing. -/
def ofExcept (r : Except Error α) : Report α := ⟨r, [], []⟩

/-- Makes a call that answers `answer`. -/
def call (c : Call) (answer : Except Error α) : Report α := ⟨answer, [c], []⟩

/-- Writes a line to the log. -/
def note (e : Event) : Report Unit := ⟨.ok (), [], [e]⟩

/-- Makes one more call at the end, whether the answer is an error or not. -/
def thenCall (r : Report α) (c : Call) : Report α :=
  ⟨r.answer, r.calls ++ [c], r.log⟩

@[simp] theorem bind_pure (a : α) (next : α → Report β) : (Report.pure a).bind next = next a := by
  simp [Report.pure, Report.bind]

@[simp] theorem bind_fail (e : Error) (next : α → Report β) :
    (Report.fail e).bind next = Report.fail e := rfl

/-- Failures are told apart by their errors. -/
theorem fail_inj {e e' : Error} : (Report.fail e : Report α) = Report.fail e' ↔ e = e' := by
  constructor
  · intro h
    exact Except.error.inj (congrArg Report.answer h)
  · rintro rfl
    rfl

/-- **AN ERROR KEEPS ITS TRACE**: calls and log up to it stay, and nothing is added. -/
theorem bind_of_error {r : Report α} {e : Error} (h : r.answer = .error e)
    (next : α → Report β) : r.bind next = ⟨.error e, r.calls, r.log⟩ := by
  simp [Report.bind, h]

/-- After a success the next report follows, with its calls and its log behind the first. -/
theorem bind_of_ok {r : Report α} {a : α} (h : r.answer = .ok a) (next : α → Report β) :
    r.bind next = ⟨(next a).answer, r.calls ++ (next a).calls, r.log ++ (next a).log⟩ := by
  simp [Report.bind, h]

@[simp] theorem bind_ofExcept_ok (a : α) (next : α → Report β) :
    (Report.ofExcept (.ok a)).bind next = next a := rfl

@[simp] theorem bind_ofExcept_error (e : Error) (next : α → Report β) :
    (Report.ofExcept (.error e)).bind next = Report.fail e := rfl

/-- Answers are chained as plain results are, whatever is called on the way. -/
theorem answer_bind (r : Report α) (next : α → Report β) :
    (r.bind next).answer = r.answer.bind (fun a => (next a).answer) := by
  rw [Report.bind]
  cases r.answer <;> rfl

/-- What is done to an answer afterwards is done to the answer alone. -/
theorem answer_map (f : α → β) (r : Report α) : (f <$> r).answer = r.answer.map f := by
  show (r.bind (fun a => Report.pure (f a))).answer = r.answer.map f
  rw [Report.bind]
  cases r.answer <;> rfl

/-- What is done to an answer afterwards calls nothing. -/
theorem calls_map (f : α → β) (r : Report α) : (f <$> r).calls = r.calls := by
  show (r.bind (fun a => Report.pure (f a))).calls = r.calls
  rw [Report.bind]
  cases r.answer with
  | error e => rfl
  | ok a => exact List.append_nil r.calls

/-- What is done to an answer afterwards writes nothing down. -/
theorem log_map (f : α → β) (r : Report α) : (f <$> r).log = r.log := by
  show (r.bind (fun a => Report.pure (f a))).log = r.log
  rw [Report.bind]
  cases r.answer with
  | error e => rfl
  | ok a => exact List.append_nil r.log

end Report
end GraphLink
