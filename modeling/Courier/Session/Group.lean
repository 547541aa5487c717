import Courier.Session.Step

/-! Sessions that count into the same metrics. Each makes moves of its own in any order; time
passes for all of them at once. -/
namespace Courier.Session

structure Group (Handler : Type) where
  sessions : List (Session Handler) := []
  metrics : Metrics := {}

namespace Group

variable {Handler : Type}

inductive Move (Handler : Type) where
  /-- A session starts, over a transport that holds so many bytes. -/
  | join (plan : Plan Handler) (pipe : Nat)
  | session (index : Nat) (move : Session.Move)
  | pass (millis : Nat)

def count (group : Group Handler) (event : Metrics.Event) : Group Handler :=
  { group with metrics := group.metrics.record event }

def join (group : Group Handler) (plan : Plan Handler) (pipe : Nat) :
    Except Panic (Group Handler) := do
  let session ← plan.start pipe
  return ⟨group.sessions ++ [session], countSignals group.metrics [.opened]⟩

/-- Let one session make a move, and count what it signals. -/
def move? (group : Group Handler) (index : Nat) (move : Session.Move) : Option (Group Handler) := do
  let session ← group.sessions[index]?
  let (next, signals) ← session.step move
  return ⟨group.sessions.set index next, countSignals group.metrics signals⟩

def pass (group : Group Handler) (millis : Nat) : Group Handler :=
  { group with
    sessions := group.sessions.map fun session => { session with now := session.now + millis } }

def cancel (group : Group Handler) : Group Handler :=
  { group with sessions := group.sessions.map fun session => { session with cancelled := true } }

def isFinished (group : Group Handler) (index : Nat) : Bool :=
  group.sessions[index]?.any Session.isFinished

/-- No session has a clock of its own. -/
def step (group : Group Handler) : Move Handler → Option (Group Handler)
  | .join plan pipe => (group.join plan pipe).toOption
  | .session _ (.outer (.pass _)) => none
  | .session index move => group.move? index move
  | .pass millis => some (group.pass millis)

end Group
end Courier.Session
