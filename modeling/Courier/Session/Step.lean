import Courier.Session.State

/-! The moves of a session. Every move is one uninterrupted piece of work of one of its parts, of a
handler, of a sender, of the peer or of the clock; which of the possible moves comes next is left
open. A move that is not possible in a state has no result. -/
namespace Courier.Session

variable {Handler : Type}

inductive ReaderMove where
  | check
  | resume
  | read (count : Nat)
  | meetEnd
  | meetFault (reason : String)
  | pull
  | release
  | leave
  deriving DecidableEq, Repr

inductive WorkerMove where
  | take
  | weigh
  | start
  | finish (verdict : Verdict)
  | stop
  deriving Repr

inductive WriterMove where
  | pick
  | write (count : Nat)
  | meetFault
  | retire
  | stop
  /-- Nobody is left who could send. -/
  | leave
  deriving DecidableEq, Repr

inductive LifeMove where
  | join
  | hurry
  | giveUp
  | close
  deriving DecidableEq, Repr

inductive OuterMove where
  | send (package : Package)
  | cancel
  | peerWrite (bytes : Bytes)
  | peerShut
  | peerRead (count : Nat)
  | peerDrop
  /-- The transport takes nothing more from the session. -/
  | breakOutput
  | pass (millis : Nat)
  deriving DecidableEq, Repr

inductive Move where
  | reader (move : ReaderMove)
  | worker (move : WorkerMove)
  | writer (move : WriterMove)
  | life (move : LifeMove)
  | outer (move : OuterMove)
  deriving Repr

abbrev Result (Handler : Type) := Option (Session Handler × List Signal)

def deadline (session : Session Handler) : Nat :=
  session.now + session.plan.grace

/-- The transport is gone once neither reader nor writer holds it. -/
def releaseTransport (session : Session Handler) : Session Handler :=
  if session.hasStoppedReading && session.isClosed then
    { session with input := session.input.close, output := session.output.close }
  else
    session

/-- The reader ends. Unless the peer has closed, the session is cancelled on the spot. -/
def endReading (session : Session Handler) (how : End) : Session Handler :=
  let session := { session with reader := .ended how }
  let session :=
    match how with
    | .peerClosed => { session with life := .draining }
    | _ => { session with cancelled := true, life := .joining session.deadline }
  session.releaseTransport

def endUnserved (session : Session Handler) : Session Handler :=
  session.endReading (.failed .partGone)

def enqueue (session : Session Handler) (package : Package) : Session Handler × List Signal :=
  if session.workerGone then
    (session.endUnserved, [.abandoned package])
  else if session.hasRoom then
    ({ session with queue := session.queue ++ [package] }, [])
  else
    ({ session with reader := .holding package }, [.stalled])

def stepReader (session : Session Handler) : ReaderMove → Result Handler
  | .check =>
    match session.reader with
    | .checking =>
      if session.hasRoom then some ({ session with reader := .reading }, [])
      else some ({ session with reader := .stalled }, [.stalled])
    | _ => none
  | .resume =>
    match session.reader with
    | .stalled =>
      if session.workerGone then some (session.endUnserved, [])
      else if session.hasRoom then some ({ session with reader := .reading }, [])
      else none
    | _ => none
  | .read count =>
    match session.reader with
    | .reading =>
      if 0 < count ∧ count ≤ session.plan.readSize ∧ count ≤ session.input.content.length then
        let (bytes, input) := session.input.read count
        some ({ session with
          input
          decoder := session.decoder.push bytes
          reader := .scanning }, [.received bytes])
      else none
    | _ => none
  | .meetEnd =>
    match session.reader with
    | .reading => if session.input.atEnd then some (session.endReading .peerClosed, []) else none
    | _ => none
  | .meetFault reason =>
    match session.reader with
    | .reading => some (session.endReading (.failed (.io reason)), [])
    | _ => none
  | .pull =>
    match session.reader with
    | .scanning =>
      let (decoder, result) := session.decoder.pull
      let session := { session with decoder }
      match result with
      | .ok none => some ({ session with reader := .checking }, [])
      | .ok (some package) =>
        let (session, signals) := session.enqueue package
        some (session, .decoded package :: signals)
      | .error (.oversized declared limit) =>
        some (session.endReading (.failed (.oversized declared limit)),
          [.rejected declared limit])
      | .error fault => some (session.endReading (.failed fault), [])
    | _ => none
  | .release =>
    match session.reader with
    | .holding package =>
      if session.workerGone then some (session.endUnserved, [.abandoned package])
      else if session.hasRoom then
        some ({ session with reader := .scanning, queue := session.queue ++ [package] }, [])
      else none
    | _ => none
  | .leave =>
    if session.cancelled then
      match session.reader with
      | .stalled | .reading => some (session.endReading .localClose, [])
      | .holding package => some (session.endReading .localClose, [.abandoned package])
      | _ => none
    else none

def stepWorker (session : Session Handler) : WorkerMove → Result Handler
  | .take =>
    match session.worker, session.queue with
    | .idle, package :: queue =>
      some ({ session with queue, worker := .weighing package }, [.taken package])
    | _, _ => none
  | .weigh =>
    match session.worker with
    | .weighing package =>
      if session.cancelled then some ({ session with worker := .idle }, [.skipped package])
      else some ({ session with worker := .assigned package }, [])
    | _ => none
  | .start =>
    match session.worker with
    | .assigned package =>
      match session.plan.routes.resolve? package with
      | some handler =>
        some ({ session with worker := .handling package handler }, [.started package])
      | none => some ({ session with worker := .idle }, [.missed package])
    | _ => none
  | .finish verdict =>
    match session.worker with
    | .handling package _ => some ({ session with worker := .idle }, [.completed package verdict])
    | _ => none
  | .stop =>
    match session.worker, session.queue with
    | .idle, [] =>
      if session.hasStoppedReading then some ({ session with worker := .stopped }, []) else none
    | _, _ => none

/-- The writer stops and shuts its side of the transport; what is still queued is dropped. -/
def stopWriting (session : Session Handler) : Session Handler :=
  { session with writer := .stopped, outbound := [], output := session.output.close }
    |>.releaseTransport

def stepWriter (session : Session Handler) : WriterMove → Result Handler
  | .pick =>
    match session.writer, session.outbound with
    | .idle, package :: outbound =>
      match package.encode session.plan.bodyLimit with
      | .ok bytes => some ({ session with outbound, writer := .writing package bytes }, [])
      | .error _ => some (session.stopWriting, [.writeFailed])
    | _, _ => none
  | .write count =>
    match session.writer with
    | .writing package rest =>
      if !session.output.closed && 0 < count && count ≤ rest.length &&
          count ≤ session.output.room then
        let session := { session with output := session.output.write (rest.take count) }
        match rest.drop count with
        | [] => some ({ session with writer := .idle }, [.wrote (rest.take count), .sent package])
        | left =>
          some ({ session with writer := .writing package left }, [.wrote (rest.take count)])
      else none
    | _ => none
  | .meetFault =>
    match session.writer with
    | .writing _ _ =>
      if session.output.closed then some (session.stopWriting, [.writeFailed]) else none
    | _ => none
  | .retire =>
    match session.writer, session.outbound with
    | .idle, [] =>
      if session.cancelled then some ({ session with writer := .retiring }, []) else none
    | _, _ => none
  | .stop =>
    match session.writer, session.outbound with
    | .idle, [] => if session.cancelled then some (session.stopWriting, []) else none
    | .retiring, _ => some (session.stopWriting, [])
    | _, _ => none
  | .leave =>
    match session.writer, session.outbound with
    | .idle, [] => if session.workerGone then some (session.stopWriting, []) else none
    | _, _ => none

def stepLife (session : Session Handler) : LifeMove → Result Handler
  | .join =>
    match session.worker, session.life with
    | .stopped, .draining => some ({ session with life := .closing, cancelled := true }, [])
    | .stopped, .joining _ => some ({ session with life := .closing }, [])
    | _, _ => none
  | .hurry =>
    match session.life with
    | .draining =>
      if session.cancelled then some ({ session with life := .joining session.deadline }, [])
      else none
    | _ => none
  | .giveUp =>
    match session.worker, session.life with
    | .stopped, _ => none
    | _, .joining deadline =>
      if deadline ≤ session.now then some ({ session with life := .closing }, [.gaveUp]) else none
    | _, _ => none
  | .close =>
    match session.life, session.writer, session.reader with
    | .closing, .stopped, .ended how =>
      some ({ session with life := .finished how }, [.closed how])
    | _, _, _ => none

def stepOuter (session : Session Handler) : OuterMove → Result Handler
  | .send package =>
    match session.sending package with
    | .accepted => some ({ session with outbound := session.outbound ++ [package] },
        [.queued package])
    | _ => none
  | .cancel => some ({ session with cancelled := true }, [.told])
  | .peerWrite bytes =>
    if !session.input.closed && bytes.length ≤ session.input.room then
      some ({ session with input := session.input.write bytes }, [])
    else none
  | .peerShut => some ({ session with input := session.input.close }, [])
  | .peerRead count => some ({ session with output := (session.output.read count).2 }, [])
  | .peerDrop =>
    some ({ session with input := session.input.close, output := session.output.close }, [])
  | .breakOutput => some ({ session with output := session.output.close }, [])
  | .pass millis => some ({ session with now := session.now + millis }, [])

def step (session : Session Handler) : Move → Result Handler
  | .reader move => session.stepReader move
  | .worker move => session.stepWorker move
  | .writer move => session.stepWriter move
  | .life move => session.stepLife move
  | .outer move => session.stepOuter move

/-- Moves that a session makes by itself. The end of a handler, faults of the transport, senders,
the peer and the clock are not up to it. -/
def Move.isOwn : Move → Bool
  | .reader (.meetFault _) | .worker (.finish _) | .writer .leave | .outer _ => false
  | _ => true

/-- No part of the session can go on by itself. -/
def Quiet (session : Session Handler) : Prop :=
  ∀ move : Move, move.isOwn → session.step move = none

/-- The runs of a session from a state, with the signals given on the way. -/
inductive Run (start : Session Handler) : Session Handler → List Signal → Prop where
  | stay : Run start start []
  | step {session next : Session Handler} {signals more : List Signal} {move : Move} :
      Run start session signals → session.step move = some (next, more) →
      Run start next (signals ++ more)

/-- The runs in which time passes only while the session is quiet. -/
inductive PatientRun (start : Session Handler) : Session Handler → List Signal → Prop where
  | stay : PatientRun start start []
  | step {session next : Session Handler} {signals more : List Signal} {move : Move} :
      PatientRun start session signals → (∀ millis, move = .outer (.pass millis) → session.Quiet) →
      session.step move = some (next, more) → PatientRun start next (signals ++ more)

theorem Run.trans {start session next : Session Handler} {signals more : List Signal}
    (first : Run start session signals) (second : Run session next more) :
    Run start next (signals ++ more) := by
  induction second with
  | stay => simpa using first
  | step _ taken ih => rw [← List.append_assoc]; exact .step ih taken

theorem PatientRun.run {start session : Session Handler} {signals : List Signal}
    (patient : PatientRun start session signals) : Run start session signals := by
  induction patient with
  | stay => exact .stay
  | step _ _ taken ih => exact .step ih taken

end Courier.Session
