import GraphLink.Client.Opening

/-! # Runs — drivers and sessions over time

    A `World` holds a backend, the drivers and sessions made so far, and the number of pools opened.
    A `Step` is one thing that a client does, or a change of the backend; `step` is total, and
    answers with an `Outcome`: the answer, the calls and the log of that step.

    Every step that makes a driver or a session takes up one slot, which stays empty if nothing
    came of it, so slots are numbered by the steps and not by their success. -/

namespace GraphLink

/-- All that there is at a moment. -/
structure World where
  backend : Backend := {}
  /-- The number of pools opened so far. -/
  pools : Nat := 0
  drivers : List (Option Driver) := []
  sessions : List (Option Session) := []
  deriving DecidableEq

/-- One thing that a client does, or a change of the backend. -/
inductive Step where
  | openUri (uri : String) (auth : AuthToken) (options : Options)
  | openDirect (target : String) (auth : AuthToken) (options : Options)
  | openRouting (targets : List String) (context : RoutingContext) (auth : AuthToken)
      (options : Options)
  | lookAtDriver (driver : Nat)
  | openSession (driver : Nat) (options : Options)
  | lookAtSession (session : Nat)
  | run (session : Nat) (query : String)
  | closeSession (session : Nat)
  | verify (driver : Nat) (options : Options)
  | multiDb (driver : Nat)
  | closeDriver (driver : Nat)
  | change (settings : List Backend.Setting)
  deriving DecidableEq

/-- What a step answers. -/
inductive Answer where
  | driver (d : Driver)
  | session (s : Session)
  | result (r : QueryResult)
  | connectivity (c : Connectivity)
  | flag (b : Bool)
  | done
  deriving DecidableEq

/-- Why a step has no answer. -/
inductive Refusal where
  /-- There is no driver in the slot. -/
  | noDriver
  /-- There is no session in the slot. -/
  | noSession
  | failed (e : Error)
  deriving DecidableEq

/-- What comes of a step. -/
structure Outcome where
  answer : Except Refusal Answer
  calls : List Call := []
  log : List Event := []

/-- A report as an outcome. -/
def Outcome.ofReport {α : Type} (r : Report α) (answer : α → Answer) : Outcome :=
  ⟨(r.answer.mapError .failed).map answer, r.calls, r.log⟩

namespace World

/-- The driver in a slot. -/
def driver? (w : World) (i : Nat) : Option Driver :=
  (w.drivers[i]?).join

/-- The session in a slot. -/
def session? (w : World) (i : Nat) : Option Session :=
  (w.sessions[i]?).join

/-- The world after a driver was to be made. -/
def addDriver (w : World) (made : Option Driver) : World :=
  { w with
    pools := if made.isSome then w.pools + 1 else w.pools
    drivers := w.drivers ++ [made] }

/-- The world after a session was to be made. -/
def addSession (w : World) (made : Option Session) : World :=
  { w with sessions := w.sessions ++ [made] }

/-- Makes a driver. -/
def opened (w : World) (r : Report Driver) : Outcome × World :=
  (.ofReport r .driver, w.addDriver r.answer.toOption)

/-- Does something with the driver in a slot. -/
def onDriver (w : World) (i : Nat) (act : Driver → Outcome × World) : Outcome × World :=
  match w.driver? i with
  | some d => act d
  | none => ({ answer := .error .noDriver }, w)

/-- Does something with the session in a slot. -/
def onSession (w : World) (i : Nat) (act : Session → Outcome × World) : Outcome × World :=
  match w.session? i with
  | some s => act s
  | none => ({ answer := .error .noSession }, w)

/-- Makes a session of the driver in a slot. -/
def openSession (w : World) (i : Nat) (o : Options) : Outcome × World :=
  match w.driver? i with
  | some d =>
      let made := d.session o
      (.ofReport (.ofExcept made) .session, w.addSession made.toOption)
  | none => ({ answer := .error .noDriver }, w.addSession none)

/-- One step. -/
def step (w : World) : Step → Outcome × World
  | .openUri uri auth o => w.opened (Opening.uri w.backend w.pools uri auth o)
  | .openDirect target auth o => w.opened (Opening.direct w.backend w.pools target auth o)
  | .openRouting targets context auth o =>
      w.opened (Opening.routing w.backend w.pools targets auth context o)
  | .lookAtDriver i => w.onDriver i (fun d => ({ answer := .ok (.driver d) }, w))
  | .openSession i o => w.openSession i o
  | .lookAtSession i => w.onSession i (fun s => ({ answer := .ok (.session s) }, w))
  | .run i query =>
      w.onSession i (fun s => (.ofReport (s.run w.backend query) .result, w))
  | .closeSession i =>
      w.onSession i (fun s =>
        ({ answer := .ok .done }, { w with sessions := w.sessions.set i (some s.close) }))
  | .verify i o =>
      w.onDriver i (fun d => (.ofReport (d.verify w.backend o) .connectivity, w))
  | .multiDb i => w.onDriver i (fun d => (.ofReport (d.supportsMultiDb w.backend) .flag, w))
  | .closeDriver i =>
      w.onDriver i (fun d =>
        let (report, d) := d.close w.backend
        (.ofReport report (fun _ => .done), { w with drivers := w.drivers.set i (some d) }))
  | .change settings =>
      ({ answer := .ok .done }, { w with backend := w.backend.setAll settings })

/-- Steps one after the other: their outcomes, and the world at the end. -/
def run (w : World) : List Step → List Outcome × World
  | [] => ([], w)
  | s :: rest =>
      let (outcome, next) := w.step s
      let (outcomes, last) := next.run rest
      (outcome :: outcomes, last)

end World
end GraphLink
