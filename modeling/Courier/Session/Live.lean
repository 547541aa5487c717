import Courier.Session.Step

/-! A session together with its described handlers. The handler at work is a job, which goes on
whenever what it needs is there; which of the possible moves of session and job comes next is left
open. -/
namespace Courier.Session

/-- An invocation at work, and until when it pauses. -/
structure Job where
  invocation : Invocation
  wakesAt : Option Nat := none
  deriving Repr

/-- A session with its handler at work, and the permits that handlers may take. -/
structure Live where
  session : Session Handler
  job : Option Job := none
  permits : Nat := 0

structure Report where
  signals : List Signal := []
  witnesses : List Witness := []
  deriving Repr

namespace Live

inductive Move where
  | session (move : Session.Move)
  | job
  | grant (permits : Nat)
  deriving Repr

abbrev Result := Option (Live × Report)

def stepSession (live : Live) (move : Session.Move) : Result := do
  let (session, signals) ← live.session.step move
  return ({ live with session }, { signals })

/-- A handler that has just been assigned starts; a package without a route has none. -/
def startJob (live : Live) : Result := do
  let (session, signals) ← live.session.step (.worker .start)
  match session.worker with
  | .handling package handler =>
    let started := Witness.started handler.tag package session.plan.id session.cancelled
    return (⟨session, some { invocation := .start handler package }, live.permits⟩,
      { signals, witnesses := [started] })
  | _ => return ({ live with session }, { signals })

def endJob (live : Live) (job : Job) (verdict : Verdict) : Result := do
  let (session, signals) ← live.session.step (.worker (.finish verdict))
  return (⟨session, none, live.permits⟩,
    { signals, witnesses := job.invocation.endWitness live.session.cancelled verdict })

def resumeJob (live : Live) (job : Job) : Live :=
  { live with job := some { invocation := job.invocation.resume } }

def stepJob (live : Live) : Result := do
  let job ← live.job
  match job.invocation.demand with
  | .pause millis =>
    match job.wakesAt with
    | some moment => if moment ≤ live.session.now then return (live.resumeJob job, {}) else none
    | none =>
      if millis = 0 then return (live.resumeJob job, {})
      else return ({ live with
        job := some { job with wakesAt := some (live.session.now + millis) } }, {})
  | .permit =>
    if 0 < live.permits then
      return ({ live with permits := live.permits - 1 }.resumeJob job, {})
    else none
  | .cancellation => if live.session.cancelled then return (live.resumeJob job, {}) else none
  | .room package =>
    match live.session.sending package with
    | .accepted =>
      let (session, signals) ← live.session.step (.outer (.send package))
      return ({ live with session }.resumeJob job, { signals })
    | .refused fault => live.endJob job (.returned (.error fault))
    | .waits => none
  | .finish verdict => live.endJob job verdict

/-- Handlers start as jobs and end in no other way. -/
def step (live : Live) : Move → Result
  | .session (.worker .start) => live.startJob
  | .session (.worker (.finish _)) => none
  | .session move => live.stepSession move
  | .job => live.stepJob
  | .grant permits => some ({ live with permits := live.permits + permits }, {})

end Live
end Courier.Session
