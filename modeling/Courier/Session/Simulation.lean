import Courier.Session.Live

/-! A session with a peer and described handlers, run on one thread with a clock that is moved by
hand. Whatever is possible is done, in a fixed order, until every part waits: the reader goes first,
then the worker takes a package and weighs it at once, then the writer, then the close goes on, and
handlers come last. -/
namespace Courier.Session

structure Simulation extends Live where
  metrics : Metrics := {}
  witnesses : List Witness := []
  records : List LogRecord := []

namespace Simulation

def observe (simulation : Simulation) (report : Report) : Simulation :=
  let plan := simulation.session.plan
  { simulation with
    metrics := countSignals simulation.metrics report.signals
    witnesses := simulation.witnesses ++ report.witnesses
    records := simulation.records ++
      report.signals.flatMap (Signal.records plan.missPolicy plan.id) }

def move? (simulation : Simulation) (move : Live.Move) : Option Simulation := do
  let (live, report) ← simulation.toLive.step move
  return { simulation with toLive := live }.observe report

/-- Make a move that is known to be possible, or none. -/
def move (simulation : Simulation) (move : Live.Move) : Simulation :=
  (simulation.move? move).getD simulation

def outer (simulation : Simulation) (move : OuterMove) : Simulation :=
  simulation.move (.session (.outer move))

/-- The reader leaves a cancelled session before it takes anything more from the peer, and reads as
much at once as it may. -/
def stepReader (simulation : Simulation) : Option Simulation :=
  let session := simulation.session
  let moves : List ReaderMove :=
    match session.reader with
    | .checking => [.check]
    | .stalled => [.leave, .resume]
    | .reading =>
      [.leave, .read (min session.input.content.length session.plan.readSize), .meetEnd]
    | .scanning => [.pull]
    | .holding _ => [.leave, .release]
    | .ended _ => []
  moves.firstM fun move => simulation.move? (.session (.reader move))

def stepWorker (simulation : Simulation) (move : WorkerMove) : Option Simulation :=
  simulation.move? (.session (.worker move))

def stepWriter (simulation : Simulation) : Option Simulation :=
  let session := simulation.session
  let moves : List WriterMove :=
    match session.writer with
    | .idle => [.pick, .stop]
    | .writing _ rest => [.meetFault, .write (min rest.length session.output.room)]
    | .retiring => [.stop]
    | .stopped => []
  moves.firstM fun move => simulation.move? (.session (.writer move))

def stepLife (simulation : Simulation) : Option Simulation :=
  [LifeMove.join, .hurry, .giveUp, .close].firstM fun move =>
    simulation.move? (.session (.life move))

def next (simulation : Simulation) : Option Simulation :=
  simulation.stepWorker .weigh <|> simulation.stepReader <|> simulation.stepWorker .take <|>
    simulation.stepWriter <|> simulation.stepLife <|> simulation.stepWorker .start <|>
    simulation.move? .job <|> simulation.stepWorker .stop

def runFor (simulation : Simulation) : Nat → Simulation
  | 0 => simulation
  | fuel + 1 =>
    match simulation.next with
    | none => simulation
    | some next => next.runFor fuel

/-- The most actions that a handler of the table takes. -/
def longestHandler (routes : Route.Table Handler) : Nat :=
  let handlers := routes.routes.map Prod.snd ++ routes.fallback.toList
  handlers.foldl (fun longest handler => max longest handler.actions.length) 0

/-- More moves than there can be before everything waits: each one takes a byte in, passes a package
on, or finishes an action of a handler. -/
def bound (simulation : Simulation) : Nat :=
  let session := simulation.session
  let load := session.input.content.length + session.decoder.pending + session.queue.length +
    session.outbound.length + 16
  load * (longestHandler session.plan.routes + 2) * 16

def settle (simulation : Simulation) : Simulation :=
  simulation.runFor simulation.bound

def start (session : Session Handler) : Simulation :=
  ({ session : Simulation }.observe { signals := [.opened] }).settle

def clear (simulation : Simulation) : Simulation :=
  { simulation with witnesses := [], records := [] }

/-! What the peer and the owner of the session do. -/

/-- How a write of the peer ended: all was taken, the pipe stayed full, or the session is gone. -/
inductive Stop where
  | done
  | full
  | broken
  deriving DecidableEq, Repr

/-- Write into the free room of the pipe, letting the session run whenever there is none. -/
def writeFor (simulation : Simulation) (bytes : Bytes) (written : Nat) :
    Nat → Simulation × Nat × Stop
  | 0 => (simulation, written, .full)
  | fuel + 1 =>
    if bytes.isEmpty then (simulation, written, .done)
    else if simulation.session.input.closed then (simulation, written, .broken)
    else
      let count := min simulation.session.input.room bytes.length
      if 0 < count then
        (simulation.outer (.peerWrite (bytes.take count))).writeFor (bytes.drop count)
          (written + count) fuel
      else
        let settled := simulation.settle
        if settled.session.input.closed then (settled, written, .broken)
        else if settled.session.input.room = 0 then (settled, written, .full)
        else settled.writeFor bytes written fuel

def write (simulation : Simulation) (bytes : Bytes) : Simulation × Nat × Stop :=
  simulation.writeFor bytes 0 (2 * bytes.length + 1)

/-- Read what the session has sent, letting it run whenever the pipe is empty. The flag says that
the end was met. -/
def readFor (simulation : Simulation) (limit : Nat) : Nat → Simulation × Bytes × Bool
  | 0 => (simulation, [], false)
  | fuel + 1 =>
    if limit = 0 then (simulation, [], false)
    else if simulation.session.output.content.isEmpty then
      if simulation.session.output.closed then (simulation, [], true)
      else
        let settled := simulation.settle
        if settled.session.output.content.isEmpty && !settled.session.output.closed then
          (settled, [], false)
        else settled.readFor limit fuel
    else
      let bytes := simulation.session.output.content.take limit
      let (last, more, ended) :=
        (simulation.outer (.peerRead bytes.length)).readFor (limit - bytes.length) fuel
      (last, bytes ++ more, ended)

def read (simulation : Simulation) (limit : Nat) : Simulation × Bytes × Bool :=
  simulation.readFor limit (2 * limit + 2)

/-- Send from outside a handler, without waiting for room. -/
def send (simulation : Simulation) (package : Package) : Simulation × Sending :=
  (simulation.outer (.send package), simulation.session.sending package)

def grant (simulation : Simulation) (permits : Nat) : Simulation :=
  simulation.move (.grant permits)

def nextMoment (simulation : Simulation) : Option Nat :=
  let wakes := simulation.job.bind (·.wakesAt)
  let deadline :=
    match simulation.session.life with
    | .joining moment => some moment
    | _ => none
  match wakes, deadline with
  | some wake, some moment => some (min wake moment)
  | some wake, none => some wake
  | none, moment => moment

/-- Move the clock to `target`, stopping at every moment that something waits for. -/
def advanceFor (simulation : Simulation) (target : Nat) : Nat → Simulation
  | 0 => simulation
  | fuel + 1 =>
    let now := simulation.session.now
    let stop := (simulation.nextMoment.filter (· ≤ target)).getD target
    let next := (simulation.outer (.pass (stop - now))).settle
    if stop = target && (next.nextMoment.all (target < ·)) then next
    else next.advanceFor target fuel

def advance (simulation : Simulation) (millis : Nat) : Simulation :=
  simulation.advanceFor (simulation.session.now + millis) (millis + 1)

end Simulation
end Courier.Session
