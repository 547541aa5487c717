import Courier.Proofs.Session.Drain
import Courier.Proofs.Session.Flush

/-! Sessions that nobody tells to close, on transports without faults. Such a session reads its
stream to the end, then its worker stops, then it closes and its writer stops, and all that was
queued has gone to its peer. -/
namespace Courier.Session

open Courier.Frame (scan)
open Package (wire)

variable {Handler : Type} {start session next : Session Handler} {moves : List Move} {move : Move}
  {signals more : List Signal} {plan : Plan Handler} {pipe : Nat}

/-- Neither a fault of the transport nor an owner who closes. -/
def Move.isCalm : Move → Bool
  | .reader (.meetFault _) | .outer .cancel | .outer .peerDrop | .outer .breakOutput => false
  | _ => true

theorem not_broken_of_calm (calm : ∀ move ∈ moves, move.isCalm = true) : ¬ Broken moves := by
  rintro ⟨move, member, breaks⟩
  have quiet := calm move member
  unfold Move.breaksOutput at breaks
  split at breaks
  · cases quiet
  · cases quiet
  · cases breaks

theorem undisturbed_of_calm (calm : ∀ move ∈ moves, move.isCalm = true) :
    Undisturbed start moves := by
  rintro earlier later session signals rfl -
  have quiet := calm (.outer .cancel) (by simp)
  cases quiet

structure Calm (session : Session Handler) : Prop where
  cancelled : session.cancelled = true → session.workerGone = true
  done : session.writer.isDone = true → session.workerGone = true

theorem Change.stays_gone (change : Change session move next more)
    (gone : session.workerGone = true) : next.workerGone = true := by
  cases change with
  | meetEnd | meetFault | leave | abandon | reject | fault =>
    rw [endReading_eq]
    exact gone
  | take at_ | skip at_ | assign at_ | start at_ | miss at_ | finish at_ =>
    simp [workerGone, at_] at gone
  | stop => rfl
  | aside _ same => simpa [workerGone, same.worker] using gone
  | _ => exact gone

/-- A session that is not told to close begins to when its worker has stopped, unless its reader
fails. -/
theorem Change.closes (change : Change session move next more) (calm : move.isCalm = true)
    (sound : ∀ fault, next.reader ≠ .ended (.failed fault)) (cancelled : next.cancelled = true) :
    session.cancelled = true ∨ session.workerGone = true := by
  cases change with
  | meetEnd =>
    rw [endReading_eq] at cancelled
    exact .inl cancelled
  | meetFault | cancel => cases calm
  | reject | fault =>
    rw [endReading_eq] at sound
    exact absurd rfl (sound _)
  | leave told | abandon told => exact .inl told
  | join gone => exact .inr gone
  | aside _ same =>
    rw [same.cancelled] at cancelled
    exact .inl cancelled
  | _ => exact .inl cancelled

theorem Egress.ends (egress : Egress session move next more)
    (outflow : Outflow session moves signals) (unbroken : ¬ Broken moves)
    (done : next.writer.isDone = true) :
    session.writer.isDone = true ∨ session.cancelled = true ∨ session.workerGone = true := by
  cases egress with
  | pick | write | complete => cases done
  | refuse at_ first refused =>
    have encoded := outflow.encodes at_ first
    rw [refused] at encoded
    cases encoded
  | fail at_ closed =>
    rcases outflow.closed closed with stopped | broken
    · simp [isClosed, at_] at stopped
    · exact absurd broken unbroken
  | retire _ _ cancelled | stop _ _ cancelled => exact .inr (.inl cancelled)
  | stopLate at_ => exact .inl (by simp [Writer.isDone, at_])
  | leave _ _ gone => exact .inr (.inr gone)
  | apart _ same =>
    rw [same.writer] at done
    exact .inl done
  | _ => exact .inl done

theorem Trace.calm (opened : plan.start pipe = .ok start)
    (trace : Trace start session moves signals) (calm : ∀ move ∈ moves, move.isCalm = true)
    (sound : ∀ fault, session.reader ≠ .ended (.failed fault)) : Calm session := by
  induction trace with
  | stay =>
    obtain ⟨-, rfl⟩ := start_eq_ok_iff.mp opened
    exact ⟨nofun, nofun⟩
  | @step session next moves signals more move earlier taken ih =>
    have coherent := (coherent_start opened).run earlier.run
    have change := coherent.changed taken
    have before : ∀ move ∈ moves, move.isCalm = true :=
      fun move member => calm move (List.mem_append_left _ member)
    obtain ⟨closing, done⟩ :=
      ih before fun fault failed => sound fault (change.stays_failed failed)
    refine ⟨fun cancelled => ?_, fun ended => ?_⟩
    · apply change.stays_gone
      rcases change.closes (calm move (by simp)) sound cancelled with already | gone
      · exact closing already
      · exact gone
    · apply change.stays_gone
      have unbroken := not_broken_of_calm before
      rcases (coherent.egress taken).ends (earlier.outflow opened) unbroken ended with
        already | cancelled | gone
      · exact done already
      · exact closing cancelled
      · exact gone

/-- A session that is left to itself and meets only whole frames has served its whole stream when it
ends. -/
theorem Trace.served (opened : plan.start pipe = .ok start)
    (trace : Trace start session moves signals) (calm : ∀ move ∈ moves, move.isCalm = true)
    (unmarred : (scan plan.bodyLimit (sentIn moves)).2 = .incomplete) {how : End}
    (ended : session.end? = some how) :
    how = .peerClosed ∧ session.workerGone = true ∧
      takenIn signals = (scan plan.bodyLimit (sentIn moves)).1 ∧
      ∃ rounds, Rounds session signals rounds [] := by
  have faultless : ∀ reason, Move.reader (.meetFault reason) ∉ moves := by
    intro reason member
    have quiet := calm _ member
    cases quiet
  have sound := trace.unfailed opened faultless unmarred
  obtain ⟨peer, -, unskipped, -, all, decoded⟩ :=
    trace.drained opened ended (undisturbed_of_calm calm) sound
  obtain ⟨-, coherent, -, -, service⟩ := trace.inward opened
  have gone := (trace.calm opened calm sound).cancelled (reader_of_end? coherent ended).2
  obtain ⟨rounds, skips, record⟩ := service.rounds
  have skipped := record.skipped
  rw [unskipped, List.length_nil, eq_comm, List.length_eq_zero_iff] at skipped
  subst skipped
  exact ⟨peer, gone, all.trans decoded, rounds, record⟩

theorem Rounds.all_succeeded {rounds : List Round} (record : Rounds session signals rounds [])
    (gone : session.workerGone = true) (failed : failedIn signals = [])
    (missed : missedIn signals = []) : succeededIn signals = takenIn signals := by
  obtain ⟨begun, hand⟩ := Worker.rests_of_gone gone
  have failures := record.count ends_fails
  have misses := record.count ends_misses
  have skips := record.countP_isSkip
  have sum := Round.countP_eq_length rounds
  rw [show signals.flatMap Signal.fails = [] from failed] at failures
  rw [show signals.flatMap Signal.misses = [] from missed] at misses
  simp only [List.append_nil, List.length_nil] at failures misses skips
  -- no other end is left for a round
  have all : ∀ round ∈ rounds, round.isSuccess = true := by
    apply List.countP_eq_length.mp
    omega
  have succeeded : succeededIn signals = _ :=
    record.picked Round.isSuccess ends_succeeds.within ends_succeeds.once
  rw [succeeded, record.taken, begun, hand, List.append_nil, List.filter_eq_self.mpr all]
  rfl

theorem isFinished_of_end? {how : End} (ended : session.end? = some how) :
    session.isFinished = true := by
  unfold end? at ended
  split at ended
  · rename_i at_
    simp [isFinished, at_]
  · cases ended

/-- All that was queued before the close has come to the peer, or is waiting for it, when a session
on a sound transport has ended; then nothing follows. -/
theorem Trace.delivers (opened : plan.start pipe = .ok start)
    (trace : Trace start session moves signals) (calm : ∀ move ∈ moves, move.isCalm = true)
    (ended : session.isFinished = true) (early : QueuedBefore start moves (queuedIn signals)) :
    deliveredIn signals = queuedIn signals ∧
      start.peerReads moves ++ session.output.content = wire (queuedIn signals) ∧
      session.output.closed = true := by
  have outflow := trace.outflow opened
  have flushed := trace.flushed opened
  have closed := flushed.finished ended
  have sound : .writeFailed ∉ signals :=
    fun failed => not_broken_of_calm calm (outflow.failed failed)
  obtain ⟨whole, flush⟩ := flushed.done (Writer.isDone_of_isClosed closed) sound
  obtain ⟨owed, begun, queued, -⟩ := outflow.order
  have some : deliveredIn signals <+: queuedIn signals := by
    rw [queued]
    exact List.prefix_append _ _
  have same : deliveredIn signals = queuedIn signals :=
    some.eq_of_length_le (flush _ early).length_le
  refine ⟨same, ?_, flushed.shut closed⟩
  rw [trace.peerReads opened, whole, same]

end Courier.Session
