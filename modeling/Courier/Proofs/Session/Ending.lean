import Courier.Proofs.Session.Order
import Courier.Proofs.Session.Origin

namespace Courier.Session

open Courier.Frame (scan scan_append_oversized)

variable {Handler : Type} {start session : Session Handler} {moves : List Move}
  {signals : List Signal} {plan : Plan Handler} {pipe : Nat}

theorem Trace.origin (opened : plan.start pipe = .ok start)
    (trace : Trace start session moves signals) : Origin start session moves signals :=
  (coherent_start opened).preserved (Origin start) (origin_start opened)
    (fun trace coherent origin change =>
      origin.change trace coherent (trace.inward opened).intake change) trace

inductive Grounds (limit : UInt16) (start : Session Handler) (moves : List Move)
    (signals : List Signal) : End → Prop where
  | peerClosed (met : .reader .meetEnd ∈ moves) (ended : PeerEnded start moves (sentIn moves))
      (whole : receivedIn signals = sentIn moves)
      (stop : (scan limit (sentIn moves)).2 = .incomplete) :
      Grounds limit start moves signals .peerClosed
  | localClose (told : .outer .cancel ∈ moves) : Grounds limit start moves signals .localClose
  | oversized {declared : UInt16}
      (stop : (scan limit (receivedIn signals)).2 = .oversized declared) :
      Grounds limit start moves signals (.failed (.oversized declared limit))
  | io {reason : String} (met : .reader (.meetFault reason) ∈ moves) :
      Grounds limit start moves signals (.failed (.io reason))

/-- The reader never ends because it lacks a worker, nor because its decoder is corrupt. -/
theorem Trace.grounds (opened : plan.start pipe = .ok start)
    (trace : Trace start session moves signals) {how : End} (at_ : session.reader = .ended how) :
    Grounds plan.bodyLimit start moves signals how := by
  have origin := trace.origin opened
  obtain ⟨rfl, -, intake, -, -⟩ := trace.inward opened
  have knows := intake.reader
  have cause := origin.cause
  rw [at_] at knows cause
  cases how with
  | peerClosed =>
    obtain ⟨ended, -, empty⟩ := origin.whole at_
    have whole : receivedIn signals = sentIn moves := by rw [origin.bytes, empty, List.append_nil]
    refine .peerClosed cause ended whole ?_
    rw [← whole]
    exact intake.accounts.incomplete knows.1 knows.2
  | localClose => exact .localClose cause
  | failed fault =>
    cases fault with
    | io reason => exact .io cause
    | oversized declared max =>
      obtain ⟨-, stop, rfl⟩ := knows
      exact .oversized stop
    | _ => exact knows.elim

theorem reader_of_end? (coherent : Coherent session) {how : End} (ended : session.end? = some how) :
    session.reader = .ended how ∧ session.cancelled = true := by
  have fits := coherent.life
  unfold end? at ended
  split at ended
  · rename_i other at_
    cases ended
    simpa [LifeFits, at_] using fits
  · cases ended

/-- Nothing but an owner's close, the end of the stream or an oversized header ends a session on a
transport without faults. If the owner does not close it, the whole stream alone decides which. -/
theorem result_decided_by_stream (opened : plan.start pipe = .ok start)
    (played : start.play moves = some (session, signals))
    (faultless : ∀ reason, Move.reader (.meetFault reason) ∉ moves) :
    (session.workerGone = true → session.hasStoppedReading = true) ∧
      ∀ how, session.end? = some how →
        how.result ≠ .error .corrupt ∧
        (∀ reason, how.result ≠ .error (.custom reason)) ∧
        (how.result = .ok .localClose → .outer .cancel ∈ moves) ∧
        (how.result = .ok .peerClosed →
          .reader .meetEnd ∈ moves ∧ PeerEnded start moves (sentIn moves) ∧
            receivedIn signals = sentIn moves) ∧
        (∀ declared max, how.result = .error (.oversized declared max) →
          (scan plan.bodyLimit (receivedIn signals)).2 = .oversized declared ∧
            max = plan.bodyLimit) ∧
        (∀ stream, .outer .cancel ∉ moves → sentIn moves <+: stream →
          (∀ sent, PeerEnded start moves sent → sent = stream) →
          how.result =
            match (scan plan.bodyLimit stream).2 with
            | .oversized declared => .error (.oversized declared plan.bodyLimit)
            | .incomplete => .ok .peerClosed) := by
  have trace := trace_iff_play.mpr played
  have coherent := (trace.inward opened).coherent
  refine ⟨fun gone => (coherent.served gone).1, ?_⟩
  intro how ended
  have grounds := trace.grounds opened (reader_of_end? coherent ended).1
  cases grounds with
  | peerClosed met finished whole stop =>
    refine ⟨nofun, nofun, nofun, fun _ => ⟨met, finished, whole⟩, nofun, ?_⟩
    intro stream _ _ finishes
    rw [← finishes _ finished, stop]
    rfl
  | localClose told =>
    exact ⟨nofun, nofun, fun _ => told, nofun, nofun, fun _ untold => absurd told untold⟩
  | @oversized declared stop =>
    refine ⟨nofun, nofun, nofun, nofun, ?_, ?_⟩
    · rintro declared max ⟨⟩
      exact ⟨stop, rfl⟩
    · rintro stream - ⟨unsent, rfl⟩ -
      rw [(trace.origin opened).bytes, List.append_assoc, scan_append_oversized _ stop, stop]
      rfl
  | io met => exact absurd met (faultless _)

/-- Behind its first package the peer sends a header that declares nine bytes. -/
def overlongMoves : List Move :=
  [.outer (.peerWrite [0, 0, 0, 7, 1, 0, 9, 0, 8, 1]), .reader .check, .reader (.read 10),
    .reader .pull, .worker .take, .worker .weigh, .worker .start, .reader .pull,
    .worker (.finish .panicked), .worker .stop, .life .join, .writer .stop, .life .close]

theorem result_decided_by_overlong_stream :
    ∃ (session : Session Unit) (signals : List Signal) (how : End),
      narrowPlan.start 64 = .ok narrowStart ∧
        narrowStart.play overlongMoves = some (session, signals) ∧ session.end? = some how ∧
        ∀ rest, how.result =
          match (scan narrowPlan.bodyLimit (sentIn overlongMoves ++ rest)).2 with
          | .oversized declared => .error (.oversized declared 4)
          | .incomplete => .ok .peerClosed := by
  have opened : narrowPlan.start 64 = .ok narrowStart := rfl
  obtain ⟨session, signals, played, ended⟩ : ∃ (session : Session Unit) (signals : List Signal),
      narrowStart.play overlongMoves = some (session, signals) ∧
        session.end? = some (.failed (.oversized 9 4)) := ⟨_, _, rfl, rfl⟩
  obtain ⟨-, decided⟩ := result_decided_by_stream opened played (by simp [overlongMoves])
  obtain ⟨-, -, -, -, -, whole⟩ := decided _ ended
  refine ⟨session, signals, _, opened, played, ended, fun rest => ?_⟩
  refine whole _ (by simp [overlongMoves]) (List.prefix_append _ _) ?_
  rintro sent ⟨earlier, move, later, -, -, split, peer, -⟩
  have never : ∀ move ∈ overlongMoves, move.isPeerEnd = false := by decide
  rw [never move (by simp [split])] at peer
  cases peer

end Courier.Session
