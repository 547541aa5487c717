import Courier.Session.Signal

namespace Courier

open Session (Signal countSignals)

namespace Metrics

inductive Counter where
  | sessionsTotal
  | sessionsActive
  | sessionsFailed
  | packagesDecoded
  | packagesSent
  | bytesReceived
  | bytesSent
  | oversizedRejections
  | packagesDispatched
  | dispatchMisses
  | handlerFailures
  | dispatchesCancelled
  | backpressureStalls
  | connectionsRefused
  deriving DecidableEq, Repr

namespace Counter

def read (counter : Counter) (metrics : Metrics) : UInt64 :=
  match counter with
  | sessionsTotal => metrics.sessionsTotal
  | sessionsActive => metrics.sessionsActive
  | sessionsFailed => metrics.sessionsFailed
  | packagesDecoded => metrics.packagesDecoded
  | packagesSent => metrics.packagesSent
  | bytesReceived => metrics.bytesReceived
  | bytesSent => metrics.bytesSent
  | oversizedRejections => metrics.oversizedRejections
  | packagesDispatched => metrics.packagesDispatched
  | dispatchMisses => metrics.dispatchMisses
  | handlerFailures => metrics.handlerFailures
  | dispatchesCancelled => metrics.dispatchesCancelled
  | backpressureStalls => metrics.backpressureStalls
  | connectionsRefused => metrics.connectionsRefused

/-- What an event adds to a counter. -/
def gain (counter : Counter) : Event → UInt64
  | .sessionStarted => if counter = sessionsTotal ∨ counter = sessionsActive then 1 else 0
  | .sessionEnded => if counter = sessionsActive then -1 else 0
  | .sessionFailed => if counter = sessionsFailed then 1 else 0
  | .bytesRead count => if counter = bytesReceived then count else 0
  | .packageDecoded => if counter = packagesDecoded then 1 else 0
  | .packageSent bytes =>
    if counter = packagesSent then 1 else if counter = bytesSent then bytes else 0
  | .oversizedRejection => if counter = oversizedRejections then 1 else 0
  | .packageDispatched => if counter = packagesDispatched then 1 else 0
  | .dispatchMiss => if counter = dispatchMisses then 1 else 0
  | .handlerFailure => if counter = handlerFailures then 1 else 0
  | .dispatchCancelled => if counter = dispatchesCancelled then 1 else 0
  | .backpressureStall => if counter = backpressureStalls then 1 else 0
  | .connectionRefused => if counter = connectionsRefused then 1 else 0

variable (counter : Counter)

theorem read_record (metrics : Metrics) (event : Event) :
    counter.read (metrics.record event) = counter.read metrics + counter.gain event := by
  cases event <;> cases counter <;> simp [read, gain, record, UInt64.sub_eq_add_neg]

def total (events : List Event) : UInt64 :=
  events.foldr (fun event sum => counter.gain event + sum) 0

theorem read_foldl (metrics : Metrics) (events : List Event) :
    counter.read (events.foldl Metrics.record metrics) =
      counter.read metrics + counter.total events := by
  induction events generalizing metrics with
  | nil => simp [total]
  | cons event rest ih => simp [ih, total, read_record, UInt64.add_assoc]

/-- A counter to which each signal adds the length of what is picked from it shows, after a run, the
length of all that is picked from the run. -/
theorem read_countSignals {pick : Signal → List α}
    (weighs : ∀ signal : Signal, counter.total signal.events = .ofNat (pick signal).length)
    (metrics : Metrics) (signals : List Signal) :
    counter.read (countSignals metrics signals) =
      counter.read metrics + UInt64.ofNat (signals.flatMap pick).length := by
  induction signals generalizing metrics with
  | nil => simp [countSignals]
  | cons signal rest ih =>
    have first : countSignals metrics (signal :: rest) =
        countSignals (signal.events.foldl Metrics.record metrics) rest := by
      simp [countSignals]
    rw [first, ih, read_foldl, weighs]
    simp [UInt64.add_assoc]

end Counter
end Metrics
end Courier
