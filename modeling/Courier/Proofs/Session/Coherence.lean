import Courier.Proofs.Limits
import Courier.Proofs.Session.Change
import Courier.Proofs.Session.Trace

namespace Courier.Session

variable {Handler : Type}

/-- The stage of the close fits what the reader did. -/
def LifeFits (session : Session Handler) : Prop :=
  match session.life with
  | .running => session.hasStoppedReading = false
  | .draining => session.reader = .ended .peerClosed
  | .joining _ | .closing => session.hasStoppedReading = true ∧ session.cancelled = true
  | .finished how => session.reader = .ended how ∧ session.cancelled = true

structure Coherent (session : Session Handler) : Prop where
  served : session.workerGone = true → session.hasStoppedReading = true ∧ session.queue = []
  life : session.LifeFits
  bounded : session.queue.length ≤ session.plan.queueLimit

variable {start session next : Session Handler} {moves : List Move} {move : Move}
  {signals more : List Signal}

theorem ended_of_hasStoppedReading (stopped : session.hasStoppedReading = true) :
    ∃ how, session.reader = .ended how := by
  unfold hasStoppedReading at stopped
  split at stopped
  · exact ⟨_, ‹_›⟩
  · cases stopped

theorem life_of_isFinished (ended : session.isFinished = true) :
    ∃ how, session.life = .finished how := by
  unfold isFinished at ended
  split at ended
  · exact ⟨_, ‹_›⟩
  · cases ended

theorem coherent_start {plan : Plan Handler} {pipe : Nat} (opened : plan.start pipe = .ok start) :
    Coherent start := by
  obtain ⟨-, rfl⟩ := start_eq_ok_iff.mp opened
  exact ⟨by simp [workerGone], rfl, Nat.zero_le _⟩

theorem Coherent.running (coherent : Coherent session) (going : session.hasStoppedReading = false) :
    session.life = .running := by
  have fits := coherent.life
  unfold LifeFits at fits
  split at fits <;> rename_i at_
  · exact at_
  all_goals simp_all [hasStoppedReading]

theorem Coherent.endReading (coherent : Coherent session)
    (going : session.hasStoppedReading = false) (how : End) :
    Coherent (session.endReading how) := by
  rw [endReading_eq]
  refine ⟨?_, ?_, coherent.bounded⟩
  · intro gone
    have ended := (coherent.served gone).1
    rw [going] at ended
    cases ended
  · cases how <;> simp [LifeFits, hasStoppedReading]

theorem Coherent.change (coherent : Coherent session) (change : Change session move next more) :
    Coherent next := by
  have served := coherent.served
  have life := coherent.life
  have bounded := coherent.bounded
  cases change with
  | look at_ | await at_ | resume at_ | read at_ | wait at_ | hold at_ =>
    have running := coherent.running (by simp [hasStoppedReading, at_])
    constructor <;> simp_all [LifeFits, hasStoppedReading, workerGone]
  | store at_ _ room | release at_ room =>
    have running := coherent.running (by simp [hasStoppedReading, at_])
    have more : session.queue.length < session.plan.queueLimit := by simpa [hasRoom] using room
    refine ⟨by simp_all [hasStoppedReading, workerGone], ?_, ?_⟩
    · simp [LifeFits, running, hasStoppedReading, at_]
    · rw [List.length_append]
      exact more
  | meetEnd at_ | meetFault at_ | abandon _ at_ =>
    exact coherent.endReading (by simp [hasStoppedReading, at_]) _
  | leave _ at_ =>
    exact coherent.endReading (by rcases at_ with at_ | at_ <;> simp [hasStoppedReading, at_]) _
  | @reject decoder _ _ at_ | @fault decoder _ at_ =>
    have same : Coherent { session with decoder } := ⟨served, life, bounded⟩
    exact same.endReading (by simp [hasStoppedReading, at_]) _
  | take at_ first =>
    refine ⟨by simp [workerGone], life, ?_⟩
    rw [first] at bounded
    exact Nat.le_of_succ_le bounded
  | skip | assign | start | miss | finish => exact ⟨by simp [workerGone], life, bounded⟩
  | stop _ empty ended => exact ⟨fun _ => ⟨ended, empty⟩, life, bounded⟩
  | join gone at_ => exact ⟨served, ⟨(served gone).1, rfl⟩, bounded⟩
  | joinLate _ at_ | giveUp _ at_ | hurry at_ | close at_ =>
    refine ⟨served, ?_, bounded⟩
    simp_all [LifeFits, hasStoppedReading]
  | cancel =>
    refine ⟨served, ?_, bounded⟩
    unfold LifeFits at life ⊢
    simp only
    split at life <;> simp_all [hasStoppedReading]
  | peerWrite | peerShut | peerDrop => exact ⟨served, life, bounded⟩
  | aside _ same =>
    refine ⟨?_, ?_, by rw [same.queue, same.plan]; exact bounded⟩
    · simpa [workerGone, hasStoppedReading, same.worker, same.reader, same.queue] using served
    · simpa [LifeFits, hasStoppedReading, same.life, same.reader, same.cancelled] using life

theorem Coherent.changed (coherent : Coherent session)
    (taken : session.step move = some (next, more)) : Change session move next more :=
  change_of_step (fun gone => (coherent.served gone).1) taken

theorem Coherent.run (coherent : Coherent start) (run : Run start session signals) :
    Coherent session := by
  induction run with
  | stay => exact coherent
  | step _ taken ih => exact ih.change (ih.changed taken)

/-- What holds at the start and is kept by every change holds along every run. -/
theorem Coherent.preserved (coherent : Coherent start)
    (held : Session Handler → List Move → List Signal → Prop) (first : held start [] [])
    (kept : ∀ {session next : Session Handler} {moves : List Move} {signals more : List Signal}
      {move : Move}, Trace start session moves signals → Coherent session →
      held session moves signals → Change session move next more →
      held next (moves ++ [move]) (signals ++ more))
    (trace : Trace start session moves signals) : held session moves signals := by
  induction trace with
  | stay => exact first
  | step earlier taken ih =>
    have before := coherent.run earlier.run
    exact kept earlier before ih (before.changed taken)

end Courier.Session
