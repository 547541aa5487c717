import Courier.Proofs.Session.Ending
import Courier.Proofs.Session.Pressure
import Courier.Proofs.Session.Tally
import Courier.Proofs.Session.Teardown

namespace Courier.Session

variable {Handler : Type} {start session next : Session Handler} {moves : List Move} {move : Move}
  {signals more : List Signal} {plan : Plan Handler} {pipe : Nat}

/-- A package that the reader keeps, or let go of, had met a full queue. -/
def Stalled (session : Session Handler) (signals : List Signal) : Prop :=
  session.reader.held ++ abandonedIn signals ≠ [] → .stalled ∈ signals

/-- Only at a full queue does a package come into the reader's hand, and only from there it is
dropped. -/
theorem Change.in_hand (change : Change session move next more) :
    .stalled ∈ more ∨
      (next.reader.held ++ abandonedIn more ≠ [] → session.reader.held ≠ []) := by
  cases change with
  | await | hold => exact .inl (by simp)
  | meetEnd | meetFault | leave | reject | fault =>
    rw [endReading_eq]
    exact .inr (by simp [Reader.held, Signal.abandons])
  | abandon _ at_ => exact .inr (by simp [at_, Reader.held])
  | aside _ same =>
    have noDropped : abandonedIn more = [] :=
      flatMap_outward (by rintro ⟨⟩ <;> simp [Signal.isOutward, Signal.abandons]) same.outward
    rw [same.reader, noDropped, List.append_nil]
    exact .inr id
  | _ => exact .inr (by simp [Reader.held, Signal.abandons])

theorem Stalled.change (stalled : Stalled session signals)
    (change : Change session move next more) : Stalled next (signals ++ more) := by
  intro kept
  rcases change.in_hand with now | before
  · exact List.mem_append_right _ now
  · refine List.mem_append_left _ (stalled ?_)
    by_cases earlier : abandonedIn signals = []
    · simp only [abandonedIn, List.flatMap_append] at earlier kept before
      rw [earlier, List.nil_append] at kept
      simp [before kept]
    · simp [earlier]

theorem Trace.stalled (opened : plan.start pipe = .ok start)
    (trace : Trace start session moves signals) : Stalled session signals := by
  refine (coherent_start opened).preserved (fun session _ signals => Stalled session signals)
    ?_ (fun _ _ stalled change => stalled.change change) trace
  obtain ⟨-, rfl⟩ := start_eq_ok_iff.mp opened
  exact fun kept => absurd rfl kept

theorem Flow.none_held (flow : Flow session signals) (coherent : Coherent session)
    (gone : session.workerGone = true) :
    takenIn signals ++ abandonedIn signals = decodedIn signals := by
  obtain ⟨stopped, empty⟩ := coherent.served gone
  obtain ⟨how, at_⟩ := ended_of_hasStoppedReading stopped
  have order := flow.order
  simpa [at_, empty, Reader.held] using order

theorem Rounds.balance {rounds skips : List Round} (record : Rounds session signals rounds skips)
    (before : Metrics) :
    let after := countSignals before signals
    (after.packagesDispatched - before.packagesDispatched) +
        (after.dispatchMisses - before.dispatchMisses) +
        (after.handlerFailures - before.handlerFailures) +
        (after.dispatchesCancelled - before.dispatchesCancelled) =
      .ofNat (rounds ++ skips).length := by
  intro after
  obtain ⟨dispatched, missed, failed, cancelled⟩ := record.counted before
  have gained : ∀ (start : UInt64) (count : Nat), start + .ofNat count - start = .ofNat count :=
    fun start count => by rw [UInt64.add_comm, UInt64.add_sub_cancel]
  rw [dispatched, missed, failed, cancelled, gained, gained, gained, gained,
    ← Round.countP_eq_length, UInt64.ofNat_add, UInt64.ofNat_add, UInt64.ofNat_add]

/-- Once the worker of a session has stopped, each package that was decoded has come to one of four
ends and is counted once, under that end. The exception is the last package decoded when the session
was told to close while the reader waited for room for it: it has been counted as decoded, and then
it is dropped and counted no more. -/
theorem decoded_packages_accounted (opened : plan.start pipe = .ok start)
    (played : start.play moves = some (session, signals)) (gone : session.workerGone = true) :
    (∃ rounds : List Round,
      workIn signals = rounds.flatMap Round.signals ∧
      decodedIn signals = rounds.map Round.package ++ abandonedIn signals ∧
      ∀ before : Metrics,
        let after := countSignals before signals
        after.packagesDispatched =
            before.packagesDispatched + .ofNat (rounds.countP Round.isSuccess) ∧
          after.dispatchMisses = before.dispatchMisses + .ofNat (rounds.countP Round.isMiss) ∧
          after.handlerFailures =
            before.handlerFailures + .ofNat (rounds.countP Round.isFailure) ∧
          after.dispatchesCancelled =
            before.dispatchesCancelled + .ofNat (rounds.countP Round.isSkip)) ∧
      (∀ before : Metrics,
        let after := countSignals before signals
        after.packagesDecoded - before.packagesDecoded =
          (after.packagesDispatched - before.packagesDispatched) +
            (after.dispatchMisses - before.dispatchMisses) +
            (after.handlerFailures - before.handlerFailures) +
            (after.dispatchesCancelled - before.dispatchesCancelled) +
            .ofNat (abandonedIn signals).length) ∧
      (abandonedIn signals ≠ [] →
        (abandonedIn signals).length = 1 ∧ session.reader = .ended .localClose ∧
          .outer .cancel ∈ moves ∧ .stalled ∈ signals) := by
  have trace := trace_iff_play.mpr played
  have cause := (trace.origin opened).cause
  have stalled := trace.stalled opened
  obtain ⟨-, coherent, -, flow, service⟩ := trace.inward opened
  obtain ⟨dispatches, skips, record⟩ := service.rounds
  have order := flow.none_held coherent gone
  obtain ⟨rested, free⟩ := Worker.rests_of_gone gone
  have work := record.work
  have taken := record.taken
  rw [rested, List.append_nil] at work
  rw [free, List.append_nil] at taken
  refine ⟨⟨dispatches ++ skips, work, ?_, record.counted⟩, ?_, ?_⟩
  · rw [← order, taken]
  · intro before after
    have decoded : after.packagesDecoded - before.packagesDecoded =
        .ofNat ((dispatches ++ skips).length + (abandonedIn signals).length) := by
      rw [packagesDecoded_countSignals, UInt64.add_comm, UInt64.add_sub_cancel, ← order, taken,
        List.length_append, List.length_map]
    rw [decoded, UInt64.ofNat_add, record.balance before]
  · intro some
    rcases flow.dropped with none | ⟨left, -, one⟩
    · exact absurd none some
    · rw [left] at cause
      exact ⟨one, left, cause, stalled (by simp [some])⟩

/-- Of five packages one is dispatched, one has no route, one makes its handler panic, one is
skipped and one is held when the session is told to close. -/
def fivefoldMoves : List Move :=
  [.outer (.peerWrite [0, 0, 0, 7, 1, 0, 0, 0, 8, 2, 0, 0, 0, 9, 1, 0, 0, 0, 10, 1]),
    .outer (.peerWrite [0, 0, 0, 11, 1]), .reader .check, .reader (.read 25), .reader .pull,
    .worker .take, .worker .weigh, .worker .start, .reader .pull, .reader .pull,
    .worker (.finish (.returned (.ok ()))), .worker .take, .reader .release, .worker .weigh,
    .worker .start, .worker .take, .reader .pull, .reader .pull, .worker .weigh, .worker .start,
    .outer .cancel, .reader .leave, .worker (.finish .panicked), .worker .take, .worker .weigh,
    .worker .stop]

theorem decoded_packages_accounted_of_each_end :
    ∃ (session : Session Unit) (signals : List Signal) (rounds : List Round),
      narrowPlan.start 64 = .ok narrowStart ∧
        narrowStart.play fivefoldMoves = some (session, signals) ∧ session.workerGone = true ∧
        decodedIn signals = rounds.map Round.package ++ [⟨⟨0, 11, 1⟩, []⟩] ∧
        session.reader = .ended .localClose ∧
        let after := countSignals {} signals
        after.packagesDispatched = 1 ∧ after.dispatchMisses = 1 ∧ after.handlerFailures = 1 ∧
          after.dispatchesCancelled = 1 ∧ after.packagesDecoded = 5 := by
  have opened : narrowPlan.start 64 = .ok narrowStart := rfl
  obtain ⟨session, signals, played, gone, dropped, dispatched, missed, failed, cancelled⟩ :
      ∃ (session : Session Unit) (signals : List Signal),
        narrowStart.play fivefoldMoves = some (session, signals) ∧ session.workerGone = true ∧
        abandonedIn signals = [⟨⟨0, 11, 1⟩, []⟩] ∧
        (countSignals {} signals).packagesDispatched = 1 ∧
        (countSignals {} signals).dispatchMisses = 1 ∧
        (countSignals {} signals).handlerFailures = 1 ∧
        (countSignals {} signals).dispatchesCancelled = 1 :=
    ⟨_, _, rfl, rfl, rfl, rfl, rfl, rfl, rfl⟩
  obtain ⟨⟨rounds, -, decoded, -⟩, balance, only⟩ :=
    decoded_packages_accounted opened played gone
  obtain ⟨-, left, -, -⟩ := only (by simp [dropped])
  have sum := balance {}
  simp only [dispatched, missed, failed, cancelled, dropped] at sum
  rw [dropped] at decoded
  refine ⟨session, signals, rounds, opened, played, gone, decoded, left, dispatched, missed, failed,
    cancelled, ?_⟩
  exact (UInt64.sub_zero _).symm.trans sum

def partingMoves : List Move :=
  [.worker .stop, .life .join, .writer .stop, .life .close]

/-- A session has ended and its worker has stopped, and of the three packages that it counted as
decoded it counted two under what became of them. -/
theorem held_package_escapes_account :
    Plan.ofSettings 1 narrowPlan.routes narrowSettings = .ok narrowPlan ∧
      narrowPlan.start 64 = .ok narrowStart ∧
      ∃ (session : Session Unit) (signals : List Signal),
        narrowStart.play (interruptedMoves ++ partingMoves) = some (session, signals) ∧
        session.end? = some .localClose ∧ session.workerGone = true ∧
        let after := countSignals {} signals
        after.packagesDecoded = 3 ∧
          after.packagesDispatched + after.dispatchMisses + after.handlerFailures +
            after.dispatchesCancelled = 2 :=
  ⟨rfl, rfl, _, _, rfl, rfl, rfl, rfl, rfl⟩

end Courier.Session
