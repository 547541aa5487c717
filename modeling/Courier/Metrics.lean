import Courier.Log

/-! Counters of what sessions did. Every counter is changed by events alone, and wraps at 64 bits;
the order of events does not matter to the totals. -/
namespace Courier

structure Metrics where
  sessionsTotal : UInt64 := 0
  sessionsActive : UInt64 := 0
  sessionsFailed : UInt64 := 0
  packagesDecoded : UInt64 := 0
  packagesSent : UInt64 := 0
  bytesReceived : UInt64 := 0
  bytesSent : UInt64 := 0
  oversizedRejections : UInt64 := 0
  packagesDispatched : UInt64 := 0
  dispatchMisses : UInt64 := 0
  handlerFailures : UInt64 := 0
  dispatchesCancelled : UInt64 := 0
  backpressureStalls : UInt64 := 0
  connectionsRefused : UInt64 := 0
  deriving DecidableEq, Repr

namespace Metrics

inductive Event where
  | sessionStarted
  | sessionEnded
  | sessionFailed
  | bytesRead (count : UInt64)
  | packageDecoded
  | packageSent (bytes : UInt64)
  | oversizedRejection
  | packageDispatched
  | dispatchMiss
  | handlerFailure
  | dispatchCancelled
  | backpressureStall
  | connectionRefused
  deriving DecidableEq, Repr

def record (metrics : Metrics) : Event → Metrics
  | .sessionStarted =>
    { metrics with
      sessionsTotal := metrics.sessionsTotal + 1
      sessionsActive := metrics.sessionsActive + 1 }
  | .sessionEnded => { metrics with sessionsActive := metrics.sessionsActive - 1 }
  | .sessionFailed => { metrics with sessionsFailed := metrics.sessionsFailed + 1 }
  | .bytesRead count => { metrics with bytesReceived := metrics.bytesReceived + count }
  | .packageDecoded => { metrics with packagesDecoded := metrics.packagesDecoded + 1 }
  | .packageSent bytes =>
    { metrics with
      packagesSent := metrics.packagesSent + 1
      bytesSent := metrics.bytesSent + bytes }
  | .oversizedRejection =>
    { metrics with oversizedRejections := metrics.oversizedRejections + 1 }
  | .packageDispatched => { metrics with packagesDispatched := metrics.packagesDispatched + 1 }
  | .dispatchMiss => { metrics with dispatchMisses := metrics.dispatchMisses + 1 }
  | .handlerFailure => { metrics with handlerFailures := metrics.handlerFailures + 1 }
  | .dispatchCancelled => { metrics with dispatchesCancelled := metrics.dispatchesCancelled + 1 }
  | .backpressureStall => { metrics with backpressureStalls := metrics.backpressureStalls + 1 }
  | .connectionRefused => { metrics with connectionsRefused := metrics.connectionsRefused + 1 }

def counters (metrics : Metrics) : List (String × UInt64) :=
  [("sessions_total", metrics.sessionsTotal),
    ("sessions_active", metrics.sessionsActive),
    ("sessions_failed", metrics.sessionsFailed),
    ("packages_decoded", metrics.packagesDecoded),
    ("packages_sent", metrics.packagesSent),
    ("bytes_received", metrics.bytesReceived),
    ("bytes_sent", metrics.bytesSent),
    ("oversized_rejections", metrics.oversizedRejections),
    ("packages_dispatched", metrics.packagesDispatched),
    ("dispatch_misses", metrics.dispatchMisses),
    ("handler_failures", metrics.handlerFailures),
    ("dispatches_cancelled", metrics.dispatchesCancelled),
    ("backpressure_stalls", metrics.backpressureStalls),
    ("connections_refused", metrics.connectionsRefused)]

/-- The report of all counters, those at zero included. -/
def report (metrics : Metrics) : LogRecord :=
  ⟨.info, "Protocol metrics snapshot",
    metrics.counters.map fun (name, value) => (name, .number value.toNat)⟩

end Metrics

def timingRecord (operation : String) : LogRecord :=
  ⟨.debug, "Operation completed", [("operation", .text operation)]⟩

end Courier
