import Courier.Pipe
import Courier.Session.Signal
import Courier.Settings.Limits

/-! A session between a peer and its handlers: a reader that decodes what the peer sends into a
bounded queue, a worker that hands the queue to handlers one package at a time, a writer that sends
packages out of a second bounded queue, and the close that joins them. -/
namespace Courier

/-- What a session is opened with. Times are in milliseconds. -/
structure Session.Plan (Handler : Type) where
  id : UInt64
  routes : Route.Table Handler
  missPolicy : Route.MissPolicy
  bodyLimit : UInt16
  queueLimit : Nat
  outboundLimit : Nat
  readSize : Nat
  grace : Nat

namespace Session

inductive Reader where
  /-- About to look whether the queue has room. -/
  | checking
  | stalled
  | reading
  | scanning
  | holding (package : Package)
  | ended (how : End)
  deriving Repr

inductive Worker (Handler : Type) where
  | idle
  /-- About to look whether the session is closing. -/
  | weighing (package : Package)
  | assigned (package : Package)
  | handling (package : Package) (handler : Handler)
  | stopped
  deriving Repr

inductive Writer where
  | idle
  | writing (package : Package) (rest : Bytes)
  /-- It has looked into the queue for the last time; what still comes in is lost. -/
  | retiring
  | stopped
  deriving Repr

/-- The stages of a session's life: it reads; after the peer's end it drains the queue; it gives the
handler at work until the deadline; it waits for the writer. -/
inductive Life where
  | running
  | draining
  | joining (deadline : Nat)
  | closing
  | finished (how : End)
  deriving Repr

end Session

structure Session (Handler : Type) where
  plan : Session.Plan Handler
  decoder : Frame.Decoder
  input : Pipe
  output : Pipe
  reader : Session.Reader := .checking
  queue : List Package := []
  worker : Session.Worker Handler := .idle
  outbound : List Package := []
  writer : Session.Writer := .idle
  life : Session.Life := .running
  cancelled : Bool := false
  now : Nat := 0

namespace Session

variable {Handler : Type}

def largestQueue : Nat := 2305843009213693951

def Plan.ofSettings (id : UInt64) (routes : Route.Table Handler) (settings : Settings) :
    Except Fault (Plan Handler) := do
  settings.checkSession
  return {
    id
    routes
    missPolicy := settings.dispatch.missPolicy
    bodyLimit := settings.framing.maxBodyLength
    queueLimit := settings.session.dispatchQueueLimit.toNat
    outboundLimit := settings.session.outboundQueueLimit.toNat
    readSize := settings.session.readBufferSize.toNat
    grace := settings.session.shutdownTimeout.toMillisUp }

/-- Why a queue cannot be made. Whoever tries to dies of it. -/
inductive Panic where
  | emptyQueue
  | overlongQueue (length : Nat)
  deriving DecidableEq, Repr

def makeQueue (length : Nat) : Except Panic Unit :=
  if length = 0 then .error .emptyQueue
  else if largestQueue < length then .error (.overlongQueue length)
  else .ok ()

/-- Start a session on a pair of pipes. The outbound queue is made before the other. -/
def Plan.start (plan : Plan Handler) (pipe : Nat) : Except Panic (Session Handler) := do
  makeQueue plan.outboundLimit
  makeQueue plan.queueLimit
  return {
    plan
    decoder := .ofLimit plan.bodyLimit
    input := { capacity := pipe }
    output := { capacity := pipe } }

def hasRoom (session : Session Handler) : Bool :=
  session.queue.length < session.plan.queueLimit

def workerGone (session : Session Handler) : Bool :=
  match session.worker with
  | .stopped => true
  | _ => false

def isClosed (session : Session Handler) : Bool :=
  match session.writer with
  | .stopped => true
  | _ => false

def isFinished (session : Session Handler) : Bool :=
  match session.life with
  | .finished _ => true
  | _ => false

def hasStoppedReading (session : Session Handler) : Bool :=
  match session.reader with
  | .ended _ => true
  | _ => false

def end? (session : Session Handler) : Option End :=
  match session.life with
  | .finished how => some how
  | _ => none

inductive Sending where
  | accepted
  | waits
  | refused (fault : Fault)
  deriving Repr

/-- A package is checked before anything else, then the writer must not have stopped, then the
outbound queue must have room. -/
def sending (session : Session Handler) (package : Package) : Sending :=
  match package.check session.plan.bodyLimit with
  | .error fault => .refused fault
  | .ok () =>
    if session.isClosed then .refused .connectionClosed
    else if session.outbound.length < session.plan.outboundLimit then .accepted
    else .waits

end Session
end Courier
