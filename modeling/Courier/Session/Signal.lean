import Courier.Dispatch
import Courier.Frame.Codec
import Courier.Metrics

/-! What a session does, as signals in the order in which it does it. Counters and log records are
read off the signals, so they cannot disagree with what was done. -/
namespace Courier.Session

inductive End where
  | peerClosed
  | localClose
  | failed (fault : Fault)
  deriving Repr

def End.result : End → Except Fault End
  | .failed fault => .error fault
  | how => .ok how

inductive Signal where
  | opened
  | received (bytes : Bytes)
  | decoded (package : Package)
  | rejected (declared limit : UInt16)
  | stalled
  /-- The reader left with a package that it did not get into the queue. -/
  | abandoned (package : Package)
  | taken (package : Package)
  | skipped (package : Package)
  | started (package : Package)
  | missed (package : Package)
  | completed (package : Package) (verdict : Verdict)
  | queued (package : Package)
  | wrote (bytes : Bytes)
  | sent (package : Package)
  | writeFailed
  | gaveUp
  /-- The session was told to close, from outside. -/
  | told
  | closed (how : End)
  deriving Repr

namespace Signal

def events : Signal → List Metrics.Event
  | .opened => [.sessionStarted]
  | .received bytes => [.bytesRead (UInt64.ofNat bytes.length)]
  | .decoded _ => [.packageDecoded]
  | .rejected .. => [.oversizedRejection]
  | .stalled => [.backpressureStall]
  | .skipped _ => [.dispatchCancelled]
  | .missed _ => [.dispatchMiss]
  | .completed _ (.returned (.ok ())) => [.packageDispatched]
  | .completed _ _ => [.handlerFailure]
  | .sent package => [.packageSent (UInt64.ofNat package.frameLength)]
  | .closed (.failed _) => [.sessionEnded, .sessionFailed]
  | .closed _ => [.sessionEnded]
  | .abandoned _ | .taken _ | .started _ | .queued _ | .wrote _ | .writeFailed | .gaveUp
  | .told => []

/-- The records of a signal; a package without a route is logged under the session's number. -/
def records (policy : Route.MissPolicy) (session : UInt64) : Signal → List LogRecord
  | .rejected declared limit => [Frame.rejectionRecord declared limit]
  | .missed package =>
    [Dispatch.missRecord policy session (.unroutable package.id package.kind)]
  | .completed _ (.returned (.ok ())) => []
  | .completed _ (.returned (.error _)) => [⟨.warn, "Handler failed", []⟩]
  | .completed _ .panicked => [⟨.error, "Handler panicked", []⟩]
  | .writeFailed => [⟨.warn, "Write failed, stopping writer", []⟩]
  | .gaveUp => [⟨.warn, "Dispatch worker did not stop within shutdown timeout", []⟩]
  | .closed (.failed fault) =>
    if fault.endsSession then [⟨.error, "Session closed on framing error", []⟩]
    else [⟨.error, "Session closed on error", []⟩]
  | .closed _ => [⟨.info, "Session closed", []⟩]
  | _ => []

end Signal

def countSignals (metrics : Metrics) (signals : List Signal) : Metrics :=
  (signals.flatMap Signal.events).foldl Metrics.record metrics

end Courier.Session
