import Courier.Proofs.Counting
import Courier.Proofs.Session.Service

namespace Courier.Session

open Metrics (Counter)

/-- The meetings of the reader with a full queue. -/
def Signal.stalls : Signal → List Signal
  | .stalled => [.stalled]
  | _ => []

/-- What a signal adds to the counters of the way in. -/
structure Signal.Weighs (signal : Signal) : Prop where
  bytes : Counter.bytesReceived.total signal.events = .ofNat signal.bytes.length
  decodes : Counter.packagesDecoded.total signal.events = .ofNat signal.decodes.length
  succeeds : Counter.packagesDispatched.total signal.events = .ofNat signal.succeeds.length
  misses : Counter.dispatchMisses.total signal.events = .ofNat signal.misses.length
  fails : Counter.handlerFailures.total signal.events = .ofNat signal.fails.length
  skips : Counter.dispatchesCancelled.total signal.events = .ofNat signal.skips.length
  stalls : Counter.backpressureStalls.total signal.events = .ofNat signal.stalls.length

theorem Signal.weighs (signal : Signal) : signal.Weighs := by
  cases signal with
  | received bytes => exact ⟨UInt64.add_zero _, rfl, rfl, rfl, rfl, rfl, rfl⟩
  | completed package verdict => rcases verdict with (fault | ⟨⟩) | _ <;> constructor <;> rfl
  | closed how => cases how <;> constructor <;> rfl
  | _ => constructor <;> rfl

section Counters

variable (before : Metrics) (signals : List Signal)

theorem bytesReceived_countSignals : (countSignals before signals).bytesReceived =
    before.bytesReceived + .ofNat (receivedIn signals).length :=
  Counter.bytesReceived.read_countSignals (fun signal => signal.weighs.bytes) before signals

theorem packagesDecoded_countSignals : (countSignals before signals).packagesDecoded =
    before.packagesDecoded + .ofNat (decodedIn signals).length :=
  Counter.packagesDecoded.read_countSignals (fun signal => signal.weighs.decodes) before signals

theorem packagesDispatched_countSignals : (countSignals before signals).packagesDispatched =
    before.packagesDispatched + .ofNat (succeededIn signals).length :=
  Counter.packagesDispatched.read_countSignals (fun signal => signal.weighs.succeeds) before signals

theorem dispatchMisses_countSignals : (countSignals before signals).dispatchMisses =
    before.dispatchMisses + .ofNat (missedIn signals).length :=
  Counter.dispatchMisses.read_countSignals (fun signal => signal.weighs.misses) before signals

theorem handlerFailures_countSignals : (countSignals before signals).handlerFailures =
    before.handlerFailures + .ofNat (failedIn signals).length :=
  Counter.handlerFailures.read_countSignals (fun signal => signal.weighs.fails) before signals

theorem dispatchesCancelled_countSignals : (countSignals before signals).dispatchesCancelled =
    before.dispatchesCancelled + .ofNat (skippedIn signals).length :=
  Counter.dispatchesCancelled.read_countSignals (fun signal => signal.weighs.skips) before signals

theorem backpressureStalls_countSignals : (countSignals before signals).backpressureStalls =
    before.backpressureStalls + .ofNat (signals.flatMap Signal.stalls).length :=
  Counter.backpressureStalls.read_countSignals (fun signal => signal.weighs.stalls) before signals

end Counters

/-- Each round comes to exactly one of four ends. -/
theorem Round.countP_eq_length (rounds : List Round) :
    rounds.countP Round.isSuccess + rounds.countP Round.isMiss + rounds.countP Round.isFailure +
      rounds.countP Round.isSkip = rounds.length := by
  have one : ∀ round : Round, (if round.isSuccess then 1 else 0) + (if round.isMiss then 1 else 0) +
      (if round.isFailure then 1 else 0) + (if round.isSkip then 1 else 0) = 1 := by
    rintro (_ | ⟨_, (_ | ⟨⟩) | _⟩ | _) <;> rfl
  induction rounds with
  | nil => rfl
  | cons round rest ih =>
    have first := one round
    simp only [List.countP_cons, List.length_cons]
    omega

/-- The rounds of a kind are those that end with a signal from which something is picked. -/
structure Ends (pick : Signal → List Package) (kind : Round → Bool) : Prop where
  within : ∀ signal : Signal, signal.work.flatMap pick = pick signal
  once : ∀ round : Round, round.signals.flatMap pick = if kind round then [round.package] else []
  taken : ∀ package, pick (.taken package) = []
  started : ∀ package, pick (.started package) = []

theorem ends_succeeds : Ends Signal.succeeds Round.isSuccess where
  within := by rintro ⟨⟩ <;> simp [Signal.work, Signal.succeeds]
  once := by rintro (_ | ⟨_, (_ | ⟨⟩) | _⟩ | _) <;> rfl
  taken _ := rfl
  started _ := rfl

theorem ends_misses : Ends Signal.misses Round.isMiss where
  within := by rintro ⟨⟩ <;> rfl
  once := by rintro ⟨⟩ <;> rfl
  taken _ := rfl
  started _ := rfl

theorem ends_fails : Ends Signal.fails Round.isFailure where
  within := by rintro ⟨⟩ <;> simp [Signal.work, Signal.fails]
  once := by rintro (_ | ⟨_, (_ | ⟨⟩) | _⟩ | _) <;> rfl
  taken _ := rfl
  started _ := rfl

theorem ends_skips : Ends Signal.skips Round.isSkip where
  within := by rintro ⟨⟩ <;> rfl
  once := by rintro ⟨⟩ <;> rfl
  taken _ := rfl
  started _ := rfl

variable {Handler : Type} {session : Session Handler} {signals : List Signal}
  {dispatches skips : List Round}

theorem Rounds.count {pick : Signal → List Package} {kind : Round → Bool}
    (rounds : Rounds session signals dispatches skips) (ends : Ends pick kind) :
    (signals.flatMap pick).length = (dispatches ++ skips).countP kind := by
  have last : session.worker.begun.flatMap pick = [] := by
    cases session.worker <;> simp [Worker.begun, ends.taken, ends.started]
  rw [rounds.picked kind ends.within ends.once, last, List.append_nil, List.length_map,
    List.countP_eq_length_filter]

theorem Rounds.countP_isSkip (rounds : Rounds session signals dispatches skips) :
    (dispatches ++ skips).countP Round.isSkip = skips.length := by
  have first : dispatches.countP Round.isSkip = 0 := by
    refine List.countP_eq_zero.mpr fun round member => ?_
    have follows := rounds.follows round member
    cases round with
    | skipped => exact follows.elim
    | _ => exact Bool.false_ne_true
  have last : skips.countP Round.isSkip = skips.length := List.countP_eq_length.mpr rounds.skipping
  rw [List.countP_append, first, last, Nat.zero_add]

theorem Rounds.skipped (rounds : Rounds session signals dispatches skips) :
    (skippedIn signals).length = skips.length :=
  (rounds.count ends_skips).trans rounds.countP_isSkip

/-- Each round is counted once, by what became of its package. -/
theorem Rounds.counted (rounds : Rounds session signals dispatches skips) (before : Metrics) :
    let after := countSignals before signals
    after.packagesDispatched =
        before.packagesDispatched + .ofNat ((dispatches ++ skips).countP Round.isSuccess) ∧
      after.dispatchMisses =
        before.dispatchMisses + .ofNat ((dispatches ++ skips).countP Round.isMiss) ∧
      after.handlerFailures =
        before.handlerFailures + .ofNat ((dispatches ++ skips).countP Round.isFailure) ∧
      after.dispatchesCancelled =
        before.dispatchesCancelled + .ofNat ((dispatches ++ skips).countP Round.isSkip) := by
  refine ⟨?_, ?_, ?_, ?_⟩
  · rw [packagesDispatched_countSignals, rounds.count ends_succeeds]
  · rw [dispatchMisses_countSignals, rounds.count ends_misses]
  · rw [handlerFailures_countSignals, rounds.count ends_fails]
  · rw [dispatchesCancelled_countSignals, rounds.count ends_skips]

end Courier.Session
