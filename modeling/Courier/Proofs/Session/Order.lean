import Courier.Proofs.Session.Intake
import Courier.Proofs.Session.Service

namespace Courier.Session

open Courier.Frame (scan)

variable {Handler : Type} {start session next : Session Handler} {moves : List Move} {move : Move}
  {signals more : List Signal}

theorem Change.plan_eq (change : Change session move next more) : next.plan = session.plan := by
  cases change with
  | meetEnd | meetFault | leave | abandon | reject | fault => rw [endReading_eq]
  | aside _ same => exact same.plan
  | _ => rfl

structure Inward (plan : Plan Handler) (session : Session Handler) (signals : List Signal) :
    Prop where
  plan_eq : session.plan = plan
  coherent : Coherent session
  intake : Intake session signals
  flow : Flow session signals
  service : Service session signals

theorem Trace.inward {plan : Plan Handler} {pipe : Nat} (opened : plan.start pipe = .ok start)
    (trace : Trace start session moves signals) : Inward plan session signals := by
  have first := coherent_start opened
  refine first.preserved (fun session _ signals => Inward plan session signals) ?_ ?_ trace
  · refine ⟨?_, first, intake_start opened, flow_start opened, service_start opened⟩
    obtain ⟨-, rfl⟩ := start_eq_ok_iff.mp opened
    rfl
  · intro session next moves signals more move _ coherent inward change
    exact ⟨change.plan_eq.trans inward.plan_eq, coherent.change change,
      inward.intake.change change, inward.flow.change change, inward.service.change change⟩

/-- Invocations begin and end by turns, so at most one is under way. -/
theorem Rounds.started {dispatches skips : List Round}
    (rounds : Rounds session signals dispatches skips) :
    (startedIn signals).length ≤ (completedIn signals).length + 1 := by
  have startsWithin : ∀ signal : Signal, signal.work.flatMap Signal.starts = signal.starts := by
    rintro ⟨⟩ <;> rfl
  have completesWithin :
      ∀ signal : Signal, signal.work.flatMap Signal.completes = signal.completes := by
    rintro ⟨⟩ <;> rfl
  have paired : ∀ round : Round,
      round.signals.flatMap Signal.starts = round.signals.flatMap Signal.completes := by
    rintro ⟨⟩ <;> rfl
  have hand : (session.worker.begun.flatMap Signal.starts).length ≤
      (session.worker.begun.flatMap Signal.completes).length + 1 := by
    cases session.worker <;> simp [Worker.begun, Signal.starts, Signal.completes]
  rw [startedIn, completedIn, ← flatMap_workIn startsWithin, ← flatMap_workIn completesWithin,
    rounds.work]
  simp only [List.flatMap_append, List.flatMap_assoc, paired, List.length_append] at hand ⊢
  omega

/-- A plan with a queue for one package and a route for the first kind alone. -/
def narrowPlan : Plan Unit where
  id := 1
  routes := { policy := .idAndKind, routes := [(.anyId 1, ())] }
  missPolicy := .report
  bodyLimit := 4
  queueLimit := 1
  outboundLimit := 1
  readSize := 64
  grace := 10

def narrowStart : Session Unit where
  plan := narrowPlan
  decoder := .ofLimit 4
  input := { capacity := 64 }
  output := { capacity := 64 }

/-- The session is told to close while a handler is at work and the reader waits for room. -/
def interruptedMoves : List Move :=
  [.outer (.peerWrite [0, 0, 0, 7, 1, 0, 1, 0, 8, 1, 65, 0, 0, 0, 9, 1]), .reader .check,
    .reader (.read 16), .reader .pull, .worker .take, .worker .weigh, .worker .start,
    .reader .pull, .reader .pull, .outer .cancel, .reader .leave,
    .worker (.finish (.returned (.ok ()))), .worker .take, .worker .weigh]

end Courier.Session
