import Courier.Session.Group

/-! A server that gives every connection a session of its own, up to a limit, until it is told to
stop. What the network does comes from outside; settings are checked before it is used. -/
namespace Courier

namespace Acceptor

/-- A server accepts connections, then waits for its sessions until a deadline, then returns. -/
inductive Phase where
  | serving
  | waiting (deadline : Nat)
  | returned (result : Except Fault Unit)
  | panicked
  deriving Repr

end Acceptor

structure Acceptor (Handler : Type) where
  settings : Settings
  routes : Route.Table Handler
  nextId : UInt64 := 1
  group : Session.Group Handler := {}
  /-- Sessions whose end the server has not taken note of, by their place in the group. -/
  watched : List Nat := []
  /-- Sessions whose task died. -/
  dead : List Nat := []
  phase : Acceptor.Phase := .serving
  now : Nat := 0

namespace Acceptor

variable {Handler : Type}

inductive Move where
  | accept (pipe : Nat)
  | acceptFault
  | session (index : Nat) (move : Session.Move)
  | die (index : Nat)
  | reap (index : Nat)
  | shutdown
  | allReaped
  | timeout
  | pass (millis : Nat)
  deriving Repr

inductive Signal where
  | started (id : UInt64)
  | refused
  deriving DecidableEq, Repr

abbrev Result (Handler : Type) := Option (Acceptor Handler × List Signal)

def limit (acceptor : Acceptor Handler) : Nat :=
  acceptor.settings.server.maxConnections.toNat

def hasEnded (acceptor : Acceptor Handler) (index : Nat) : Bool :=
  acceptor.group.isFinished index || acceptor.dead.contains index

def running (acceptor : Acceptor Handler) : List Nat :=
  (List.range acceptor.group.sessions.length).filter (!acceptor.hasEnded ·)

def launch (acceptor : Acceptor Handler) (pipe : Nat) : Acceptor Handler × List Signal :=
  let id := acceptor.nextId
  match Session.Plan.ofSettings id acceptor.routes acceptor.settings with
  | .error fault => ({ acceptor with phase := .returned (.error fault) }, [])
  | .ok plan =>
    match acceptor.group.join plan pipe with
    | .error _ => ({ acceptor with phase := .panicked }, [])
    | .ok group =>
      ({ acceptor with
        nextId := id + 1
        group
        watched := acceptor.watched ++ [acceptor.group.sessions.length] }, [.started id])

/-- A connection is refused exactly while as many sessions as the limit allows are watched. -/
def accept (acceptor : Acceptor Handler) (pipe : Nat) : Acceptor Handler × List Signal :=
  if acceptor.limit ≤ acceptor.watched.length then
    ({ acceptor with group := acceptor.group.count .connectionRefused }, [.refused])
  else
    acceptor.launch pipe

/-- A session moves, whatever the server does. Reader and close belong to the session's task and
die with it. -/
def moveSession (acceptor : Acceptor Handler) (index : Nat) (move : Session.Move) :
    Result Handler :=
  let bound :=
    match move with
    | .reader _ | .life _ => true
    | _ => false
  if bound && acceptor.dead.contains index then none
  else (acceptor.group.step (.session index move)).map fun group => ({ acceptor with group }, [])

def reap (acceptor : Acceptor Handler) (index : Nat) : Result Handler :=
  if index ∈ acceptor.watched ∧ acceptor.hasEnded index then
    match acceptor.phase with
    | .serving | .waiting _ =>
      some ({ acceptor with watched := acceptor.watched.erase index }, [])
    | _ => none
  else none

/-- At the deadline the watches are given up, and sessions that still run are left to
themselves. -/
def step (acceptor : Acceptor Handler) : Move → Result Handler
  | .accept pipe =>
    match acceptor.phase with
    | .serving => some (acceptor.accept pipe)
    | _ => none
  | .acceptFault =>
    match acceptor.phase with
    | .serving => some (acceptor, [])
    | _ => none
  | .session index move => acceptor.moveSession index move
  | .die index =>
    if index < acceptor.group.sessions.length ∧ !acceptor.hasEnded index then
      some ({ acceptor with dead := index :: acceptor.dead }, [])
    else none
  | .reap index => acceptor.reap index
  | .shutdown =>
    match acceptor.phase with
    | .serving =>
      let deadline := acceptor.now + acceptor.settings.session.shutdownTimeout.toMillisUp
      some ({ acceptor with group := acceptor.group.cancel, phase := .waiting deadline }, [])
    | _ => none
  | .allReaped =>
    match acceptor.phase, acceptor.watched with
    | .waiting _, [] => some ({ acceptor with phase := .returned (.ok ()) }, [])
    | _, _ => none
  | .timeout =>
    match acceptor.phase with
    | .waiting deadline =>
      if deadline ≤ acceptor.now then
        some ({ acceptor with watched := [], phase := .returned (.ok ()) }, [])
      else none
    | _ => none
  | .pass millis =>
    some ({ acceptor with group := acceptor.group.pass millis, now := acceptor.now + millis }, [])

inductive Run (start : Acceptor Handler) : Acceptor Handler → List Signal → Prop where
  | stay : Run start start []
  | step {acceptor next : Acceptor Handler} {signals more : List Signal} {move : Move} :
      Run start acceptor signals → acceptor.step move = some (next, more) →
      Run start next (signals ++ more)

def serve (settings : Settings) (routes : Route.Table Handler) : Except Fault (Acceptor Handler) := do
  settings.check
  return { settings, routes }

/-- Bind the address of the settings and serve; `bind` is what comes of binding. -/
def start (settings : Settings) (routes : Route.Table Handler) (bind : Except Fault Unit) :
    Except Fault (Acceptor Handler) := do
  settings.check
  bind
  serve settings routes

def stopIdle (acceptor : Acceptor Handler) : Option (Acceptor Handler) := do
  let (acceptor, _) ← acceptor.step .shutdown
  let (acceptor, _) ← acceptor.step .allReaped
  return acceptor

def result? (acceptor : Acceptor Handler) : Option (Except Fault Unit) :=
  match acceptor.phase with
  | .returned result => some result
  | _ => none

end Acceptor

/-- Open a session to a server; `dial` is what comes of connecting. The session's settings are
checked first. -/
def connect {Connection : Type} (settings : Settings) (dial : Except Fault Connection) :
    Except Fault Connection := do
  settings.checkSession
  dial

end Courier
