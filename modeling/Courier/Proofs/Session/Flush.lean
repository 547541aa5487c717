import Courier.Proofs.Session.Outflow

/-! What a close leaves unwritten. A writer that ends without a fault of the transport has found its
queue empty when it looked for the last time, and it looks after the close has begun. So all that
was queued before is on the transport when that is shut. -/
namespace Courier.Session

open Package (wire)

variable {Handler : Type}

def Writer.isDone : Writer → Bool
  | .retiring | .stopped => true
  | _ => false

theorem Writer.isDone_of_isClosed {session : Session Handler} (closed : session.isClosed = true) :
    session.writer.isDone = true := by
  unfold isClosed at closed
  split at closed
  · rename_i at_
    rw [at_]
    rfl
  · cases closed

/-- At a moment before the session began to close these packages had been queued. -/
def QueuedBefore (start : Session Handler) (moves : List Move) (packages : List Package) : Prop :=
  ∃ earlier later session signals, moves = earlier ++ later ∧
    start.play earlier = some (session, signals) ∧ session.cancelled = false ∧
    queuedIn signals = packages

variable {start session next : Session Handler} {moves : List Move} {move : Move}
  {signals more : List Signal} {plan : Plan Handler} {pipe : Nat} {packages : List Package}

theorem QueuedBefore.isPrefix (before : QueuedBefore start moves packages)
    (played : start.play moves = some (session, signals)) : packages <+: queuedIn signals := by
  obtain ⟨earlier, later, middle, sofar, rfl, opening, -, rfl⟩ := before
  obtain ⟨rest, -, rfl⟩ := play_append played opening
  have split : queuedIn (sofar ++ rest) = queuedIn sofar ++ queuedIn rest := List.flatMap_append
  rw [split]
  exact List.prefix_append _ _

theorem QueuedBefore.now (played : start.play moves = some (session, signals))
    (going : session.cancelled = false) : QueuedBefore start moves (queuedIn signals) :=
  ⟨moves, [], session, signals, by simp, played, going, rfl⟩

theorem QueuedBefore.append (before : QueuedBefore start moves packages) (rest : List Move) :
    QueuedBefore start (moves ++ rest) packages := by
  obtain ⟨earlier, later, middle, sofar, rfl, opening, going, queued⟩ := before
  exact ⟨earlier, later ++ rest, middle, sofar, by simp, opening, going, queued⟩

/-- A moment before the close is the last one or came before the last move. -/
theorem QueuedBefore.concat (before : QueuedBefore start (moves ++ [move]) packages)
    (played : start.play (moves ++ [move]) = some (next, signals)) :
    QueuedBefore start moves packages ∨ next.cancelled = false ∧ packages = queuedIn signals := by
  obtain ⟨earlier, later, middle, sofar, split, opening, going, rfl⟩ := before
  rcases List.eq_nil_or_concat later with rfl | ⟨later, last, rfl⟩
  · rw [List.append_nil] at split
    rw [← split, played] at opening
    obtain ⟨rfl, rfl⟩ := Prod.mk.inj (Option.some.inj opening)
    exact .inr ⟨going, rfl⟩
  · rw [List.concat_eq_append, ← List.append_assoc] at split
    have same := (List.append_inj' split rfl).1
    exact .inl ⟨earlier, later, middle, sofar, same, opening, going, rfl⟩

theorem Change.stays_cancelled (change : Change session move next more)
    (cancelled : session.cancelled = true) : next.cancelled = true := by
  cases change with
  | meetEnd | meetFault | leave | abandon | reject | fault =>
    exact cancelled_endReading _ _ cancelled
  | join | cancel => rfl
  | aside _ same =>
    rw [same.cancelled]
    exact cancelled
  | _ => exact cancelled

theorem Egress.stays_closed (egress : Egress session move next more)
    (closed : session.isClosed = true) : next.isClosed = true := by
  cases egress with
  | pick at_ | write at_ | complete at_ | retire at_ => simp [isClosed, at_] at closed
  | refuse | fail | stop | stopLate | leave => rw [stopWriting_eq]; rfl
  | apart _ same => simpa [isClosed, same.writer] using closed
  | _ => exact closed

/-- Nothing is written to a transport that is shut, and it stays shut. -/
theorem Egress.shut (egress : Egress session move next more)
    (closed : session.output.closed = true) :
    writtenIn more = [] ∧ next.output.closed = true := by
  cases egress with
  | write _ going | complete _ going =>
    rw [closed] at going
    cases going
  | refuse | fail | stop | stopLate | leave =>
    rw [stopWriting_eq]
    exact ⟨rfl, rfl⟩
  | breakOutput | peerDrop => exact ⟨rfl, rfl⟩
  | apart _ same => exact ⟨(unmoved_of_inward same.inward).written, same.stays closed⟩
  | _ => exact ⟨rfl, closed⟩

theorem Egress.done (egress : Egress session move next more)
    (done : session.writer.isDone = true) :
    next.writer.isDone = true ∧ deliveredIn more = [] ∧ writtenIn more = [] := by
  cases egress with
  | pick at_ | refuse at_ | write at_ | complete at_ | fail at_ | retire at_ | stop at_
  | leave at_ =>
    simp [Writer.isDone, at_] at done
  | stopLate =>
    rw [stopWriting_eq]
    exact ⟨rfl, rfl, rfl⟩
  | apart _ same =>
    have unmoved := unmoved_of_inward same.inward
    rw [same.writer]
    exact ⟨done, unmoved.delivered, unmoved.written⟩
  | _ => exact ⟨done, rfl, rfl⟩

/-- A writer becomes done by finding its queue empty, or by a fault. -/
theorem Egress.finds_empty (egress : Egress session move next more)
    (before : session.writer.isDone = false) (after : next.writer.isDone = true) :
    .writeFailed ∈ more ∨ session.writer = .idle ∧ session.outbound = [] ∧ more = [] := by
  cases egress with
  | refuse | fail => exact .inl (by simp)
  | retire at_ empty | stop at_ empty | leave at_ empty => exact .inr ⟨at_, empty, rfl⟩
  | stopLate at_ => simp [Writer.isDone, at_] at before
  | pick | write | complete => simp [Writer.isDone] at after
  | apart _ same =>
    rw [same.writer, before] at after
    cases after
  | _ =>
    rw [before] at after
    cases after

theorem Outflow.all_delivered (outflow : Outflow session moves signals)
    (at_ : session.writer = .idle) (empty : session.outbound = []) :
    queuedIn signals = deliveredIn signals ∧ writtenIn signals = wire (deliveredIn signals) := by
  obtain ⟨owed, begun, queued, written, owes⟩ := outflow.order
  rw [at_] at owes
  obtain ⟨rfl, rfl⟩ := owes
  rw [empty, List.append_nil] at queued
  rw [List.append_nil] at written
  exact ⟨queued, written⟩

/-- A writer that is done without a fault has delivered whole frames, and all that was queued before
the close. -/
structure Flushed (start session : Session Handler) (moves : List Move) (signals : List Signal) :
    Prop where
  retiring : session.writer = .retiring → session.cancelled = true
  shut : session.isClosed = true → session.output.closed = true
  finished : session.isFinished = true → session.isClosed = true
  done : session.writer.isDone = true → .writeFailed ∉ signals →
    writtenIn signals = wire (deliveredIn signals) ∧
      ∀ packages, QueuedBefore start moves packages → packages <+: deliveredIn signals

theorem flushed_start (opened : plan.start pipe = .ok start) : Flushed start start [] [] := by
  obtain ⟨-, rfl⟩ := start_eq_ok_iff.mp opened
  constructor <;> simp [Writer.isDone, isClosed, isFinished]

theorem Change.finished (change : Change session move next more)
    (finished : next.isFinished = true) :
    session.isFinished = true ∨ session.isClosed = true := by
  cases change with
  | meetEnd | meetFault | leave | abandon | reject | fault =>
    rw [endReading_eq] at finished
    cases finished
  | join | joinLate | hurry | giveUp => cases finished
  | close _ written => exact .inr written
  | aside _ same => exact .inl (by simpa [isFinished, same.life] using finished)
  | _ => exact .inl finished

theorem Egress.retires (egress : Egress session move next more)
    (at_ : next.writer = .retiring) :
    session.writer = .retiring ∨ session.cancelled = true := by
  cases egress with
  | retire _ _ cancelled => exact .inr cancelled
  | refuse | fail | stop | stopLate | leave =>
    rw [stopWriting_eq] at at_
    cases at_
  | pick | write | complete => cases at_
  | apart _ same => exact .inl (by rw [← same.writer, at_])
  | _ => exact .inl at_

theorem Egress.closed_to_senders (egress : Egress session move next more)
    (closed : session.isClosed = true) : queuedIn more = [] := by
  cases egress with
  | send _ going =>
    rw [closed] at going
    cases going
  | apart _ same => exact (unmoved_of_inward same.inward).queued
  | _ => rfl

theorem Egress.stops (egress : Egress session move next more)
    (before : session.isClosed = false) (after : next.isClosed = true) :
    next.output.closed = true := by
  cases egress with
  | refuse | fail | stop | stopLate | leave =>
    rw [stopWriting_eq]
    rfl
  | pick | write | complete | retire => cases after
  | apart _ same =>
    have stage : next.isClosed = session.isClosed := by simp [isClosed, same.writer]
    rw [stage, before] at after
    cases after
  | _ =>
    rw [show session.isClosed = true from after] at before
    cases before

theorem Flushed.finding_empty (outflow : Outflow session moves signals)
    (egress : Egress session move next more) (before : session.writer.isDone = false)
    (after : next.writer.isDone = true) (sound : .writeFailed ∉ more) :
    queuedIn (signals ++ more) = deliveredIn (signals ++ more) ∧
      writtenIn (signals ++ more) = wire (deliveredIn (signals ++ more)) := by
  rcases egress.finds_empty before after with failed | ⟨at_, empty, rfl⟩
  · exact absurd failed sound
  · rw [List.append_nil]
    exact outflow.all_delivered at_ empty

/-- Behind a writer that is done only packages come in that were sent during the close. -/
theorem Flushed.staying_done (flushed : Flushed start session moves signals)
    (change : Change session move next more) (egress : Egress session move next more)
    (played : start.play moves = some (session, signals))
    (later : start.play (moves ++ [move]) = some (next, signals ++ more))
    (before : session.writer.isDone = true)
    (queued : QueuedBefore start (moves ++ [move]) packages) :
    QueuedBefore start moves packages := by
  rcases queued.concat later with earlier | ⟨going, rfl⟩
  · exact earlier
  · have still : session.cancelled = false := by
      refine Bool.eq_false_iff.mpr fun cancelled => ?_
      rw [change.stays_cancelled cancelled] at going
      cases going
    have closed : session.isClosed = true := by
      cases at_ : session.writer with
      | idle | writing => simp [Writer.isDone, at_] at before
      | retiring =>
        rw [flushed.retiring at_] at still
        cases still
      | stopped => simp [isClosed, at_]
    have same : queuedIn (signals ++ more) = queuedIn signals := by
      simp [egress.closed_to_senders closed]
    rw [same]
    exact .now played still

theorem Flushed.step (flushed : Flushed start session moves signals)
    (coherent : Coherent session) (trace : Trace start session moves signals)
    (outflow : Outflow session moves signals)
    (taken : session.step move = some (next, more)) :
    Flushed start next (moves ++ [move]) (signals ++ more) := by
  have change := coherent.changed taken
  have egress := coherent.egress taken
  have played := trace_iff_play.mp trace
  have later := trace_iff_play.mp (trace.step taken)
  refine ⟨?_, ?_, ?_, ?_⟩
  · intro at_
    rcases egress.retires at_ with already | cancelled
    · exact change.stays_cancelled (flushed.retiring already)
    · exact change.stays_cancelled cancelled
  · intro closed
    cases before : session.isClosed with
    | true => exact (egress.shut (flushed.shut before)).2
    | false => exact egress.stops before closed
  · intro finished
    rcases change.finished finished with already | closed
    · exact egress.stays_closed (flushed.finished already)
    · exact egress.stays_closed closed
  · intro done sound
    simp only [List.mem_append, not_or] at sound
    -- the writer finds its queue empty in this move, or has been done before
    cases before : session.writer.isDone with
    | false =>
      obtain ⟨all, whole⟩ := Flushed.finding_empty outflow egress before done sound.2
      refine ⟨whole, fun packages queued => ?_⟩
      rw [← all]
      exact queued.isPrefix later
    | true =>
      obtain ⟨whole, flush⟩ := flushed.done before sound.1
      obtain ⟨-, delivered, written⟩ := egress.done before
      simp only [deliveredIn, writtenIn, List.flatMap_append] at delivered written whole flush ⊢
      rw [delivered, written, List.append_nil, List.append_nil]
      refine ⟨whole, fun packages queued => flush packages ?_⟩
      exact flushed.staying_done change egress played later before queued

theorem Trace.flushed (opened : plan.start pipe = .ok start)
    (trace : Trace start session moves signals) : Flushed start session moves signals := by
  induction trace with
  | stay => exact flushed_start opened
  | step earlier taken ih =>
    have coherent := (coherent_start opened).run earlier.run
    exact ih.step coherent earlier (earlier.outflow opened) taken

theorem Coherent.writes_nothing (coherent : Coherent start)
    (trace : Trace start session moves signals) (closed : start.output.closed = true) :
    writtenIn signals = [] ∧ session.output.closed = true := by
  induction trace with
  | stay => exact ⟨rfl, closed⟩
  | step earlier taken ih =>
    obtain ⟨silent, shut⟩ := ih
    obtain ⟨nothing, stays⟩ := ((coherent.run earlier.run).egress taken).shut shut
    simp only [writtenIn, List.flatMap_append] at silent nothing ⊢
    exact ⟨by rw [silent, nothing, List.append_nil], stays⟩

/-- A session that has ended without a fault of the transport on its way out has put whole frames on
the transport, one for each package delivered, in the order in which they were queued. Among them are
all that were queued before the session began to close, and all of their bytes were on the transport
when that was shut. -/
theorem close_flushes_queue (opened : plan.start pipe = .ok start)
    (played : start.play moves = some (session, signals)) (ended : session.isFinished = true)
    (sound : .writeFailed ∉ signals) :
    start.peerReads moves ++ session.output.content = wire (deliveredIn signals) ∧
      writtenIn signals = wire (deliveredIn signals) ∧
      deliveredIn signals <+: queuedIn signals ∧ queuedIn signals = postedIn moves ∧
      (∀ package ∈ queuedIn signals,
        package.encode plan.bodyLimit = .ok package.toBytes) ∧
      session.output.closed = true ∧
      ∀ earlier later before sofar, moves = earlier ++ later →
        start.play earlier = some (before, sofar) →
        queuedIn sofar = postedIn earlier ∧
          (before.cancelled = false → queuedIn sofar <+: deliveredIn signals) ∧
          (before.output.closed = true →
            start.peerReads earlier ++ before.output.content = wire (deliveredIn signals) ∧
              writtenIn sofar = writtenIn signals) := by
  have trace := trace_iff_play.mpr played
  have outflow := trace.outflow opened
  have flushed := trace.flushed opened
  have passed := trace.peerReads opened
  obtain ⟨rfl, -⟩ := trace.inward opened
  have closed := flushed.finished ended
  obtain ⟨whole, flush⟩ := flushed.done (Writer.isDone_of_isClosed closed) sound
  obtain ⟨owed, begun, queued, -⟩ := outflow.order
  refine ⟨passed.trans whole, whole, ?_, trace.posted opened, ?_, flushed.shut closed, ?_⟩
  · rw [queued]
    exact List.prefix_append _ _
  · intro package member
    exact Package.encode_eq_ok_iff.mpr ⟨outflow.fits package member, rfl⟩
  · intro earlier later before sofar split opening
    have first := trace_iff_play.mpr opening
    refine ⟨first.posted opened, fun going => ?_, fun shut => ?_⟩
    · exact flush _ ⟨earlier, later, before, sofar, split, opening, going, rfl⟩
    · have same : writtenIn sofar = writtenIn signals := by
        rw [split] at played
        obtain ⟨rest, after, rfl⟩ := play_append played opening
        have coherent := (coherent_start opened).run first.run
        have silent := (coherent.writes_nothing (trace_iff_play.mpr after) shut).1
        simp only [writtenIn, List.flatMap_append] at silent ⊢
        rw [silent, List.append_nil]
      exact ⟨(first.peerReads opened).trans (same.trans whole), same⟩

/-- Two packages are queued, and the first one is on its way. -/
def sendingMoves : List Move :=
  [.outer (.send ⟨⟨1, 7, 2⟩, [65]⟩), .writer .pick, .outer (.send ⟨⟨0, 8, 1⟩, []⟩),
    .writer (.write 4)]

/-- The session is told to close. A third package comes in when the writer has looked for the last
time. -/
def flushingMoves : List Move :=
  [.outer .cancel, .reader .check, .reader .leave, .writer (.write 2), .writer .pick,
    .writer (.write 5), .writer .retire, .outer (.send ⟨⟨0, 9, 1⟩, []⟩), .writer .stop,
    .worker .stop, .life .join, .life .close]

theorem close_flushes_queue_in_midst_of_frame :
    ∃ (session before : Session Unit) (signals sofar : List Signal),
      narrowPlan.start 64 = .ok narrowStart ∧
        narrowStart.play sendingMoves = some (before, sofar) ∧ before.cancelled = false ∧
        before.output.content = [0, 1, 0, 7] ∧
        narrowStart.play (sendingMoves ++ flushingMoves) = some (session, signals) ∧
        session.isFinished = true ∧ .writeFailed ∉ signals ∧
        queuedIn sofar = [⟨⟨1, 7, 2⟩, [65]⟩, ⟨⟨0, 8, 1⟩, []⟩] ∧
        queuedIn sofar <+: deliveredIn signals ∧
        narrowStart.peerReads (sendingMoves ++ flushingMoves) ++ session.output.content =
          wire (deliveredIn signals) ∧
        session.output.content = [0, 1, 0, 7, 2, 65, 0, 0, 0, 8, 1] ∧
        queuedIn signals = queuedIn sofar ++ [⟨⟨0, 9, 1⟩, []⟩] ∧
        deliveredIn signals = queuedIn sofar := by
  have opened : narrowPlan.start 64 = .ok narrowStart := rfl
  obtain ⟨before, sofar, opening, going, begun, queued⟩ :
      ∃ (before : Session Unit) (sofar : List Signal),
        narrowStart.play sendingMoves = some (before, sofar) ∧ before.cancelled = false ∧
        before.output.content = [0, 1, 0, 7] ∧
        queuedIn sofar = [⟨⟨1, 7, 2⟩, [65]⟩, ⟨⟨0, 8, 1⟩, []⟩] := ⟨_, _, rfl, rfl, rfl, rfl⟩
  obtain ⟨session, signals, played, ended, sound, content, delivered⟩ :
      ∃ (session : Session Unit) (signals : List Signal),
        narrowStart.play (sendingMoves ++ flushingMoves) = some (session, signals) ∧
        session.isFinished = true ∧ .writeFailed ∉ signals ∧
        session.output.content = [0, 1, 0, 7, 2, 65, 0, 0, 0, 8, 1] ∧
        deliveredIn signals = [⟨⟨1, 7, 2⟩, [65]⟩, ⟨⟨0, 8, 1⟩, []⟩] :=
    ⟨_, _, rfl, rfl, by simp, rfl, rfl⟩
  obtain ⟨whole, -, -, all, -, -, flush⟩ := close_flushes_queue opened played ended sound
  refine ⟨session, before, signals, sofar, opened, opening, going, begun, played, ended, sound,
    queued, (flush _ _ _ _ rfl opening).2.1 going, whole, content, ?_, ?_⟩
  · rw [all, queued]
    rfl
  · rw [delivered, queued]

end Courier.Session
