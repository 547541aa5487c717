import Courier.Proofs.Limits
import Courier.Proofs.Session.Flush
import Courier.Proofs.Session.Tally
import Courier.Proofs.Session.Teardown

/-! What is left of a session that has ended. The close may have given up on a handler that is still
at work, with packages queued behind it, and senders may still hold the session. None of them can
start a handler or bring anything onto the transport any more: time passes only while no part of the
session can go on, so that the close does not give up on a package that has been assigned and whose
handler has not started. -/
namespace Courier.Session

variable {Handler : Type} {start session next last earlier : Session Handler} {moves : List Move}
  {move : Move} {signals more before after : List Signal} {plan : Plan Handler} {pipe : Nat}

def Worker.handled : Worker Handler → List Package
  | .handling package _ => [package]
  | _ => []

def Worker.weighed : Worker Handler → List Package
  | .weighing package => [package]
  | _ => []

/-- The packages of which the worker has not decided yet what becomes of them. -/
def backlog (session : Session Handler) : List Package :=
  session.worker.weighed ++ session.queue

/-- A package that waits for its handler to start is waited for by the close, whose deadline has not
come. -/
def Awaited (session : Session Handler) : Prop :=
  ∀ package, session.worker = .assigned package →
    match session.life with
    | .running | .draining => True
    | .joining deadline => session.now < deadline
    | .closing | .finished _ => False

theorem awaited_endReading (session : Session Handler) (grace : 0 < session.plan.grace)
    (how : End) : Awaited (session.endReading how) := by
  rw [endReading_eq]
  intro package _
  cases how with
  | peerClosed => trivial
  | localClose | failed => exact Nat.lt_add_of_pos_right grace

theorem Quiet.not_assigned (quiet : session.Quiet) (package : Package) :
    session.worker ≠ .assigned package := by
  intro at_
  have stuck := quiet (.worker .start) rfl
  simp only [step, stepWorker, at_] at stuck
  split at stuck <;> cases stuck

theorem Awaited.step (awaited : Awaited session) (coherent : Coherent session)
    (grace : 0 < session.plan.grace)
    (patient : ∀ millis, move = .outer (.pass millis) → session.Quiet)
    (taken : session.step move = some (next, more)) : Awaited next := by
  by_cases passes : ∃ millis, move = .outer (.pass millis)
  · obtain ⟨millis, rfl⟩ := passes
    have free := (patient millis rfl).not_assigned
    cases taken
    exact fun package at_ => absurd at_ (free package)
  have now := coherent.now_eq taken fun millis same => passes ⟨millis, same⟩
  have change := coherent.changed taken
  have kept : next.worker = session.worker → next.life = session.life → Awaited next := by
    intro worker life package at_
    rw [life, now]
    exact awaited package (by rw [← worker, at_])
  cases change with
  | meetEnd | meetFault | leave | abandon => exact awaited_endReading session grace _
  | @reject decoder | @fault decoder =>
    exact awaited_endReading { session with decoder } grace _
  | take | skip | start | miss | finish | stop => exact nofun
  | assign at_ going =>
    -- a close that is past its reader has cancelled the session
    have fits := coherent.life
    intro package _
    show match session.life with
      | .running | .draining => True
      | .joining deadline => session.now < deadline
      | .closing | .finished _ => False
    cases life : session.life with
    | running | draining => trivial
    | joining | closing | finished => simp [LifeFits, life, going] at fits
  | join gone | joinLate gone =>
    intro package at_
    simp only [workerGone, show session.worker = .assigned package from at_] at gone
    cases gone
  | hurry => exact fun _ _ => Nat.lt_add_of_pos_right grace
  | giveUp _ at_ late =>
    intro package assigned
    have early := awaited package assigned
    rw [at_] at early
    exact absurd early (Nat.not_lt.mpr late)
  | close at_ =>
    intro package assigned
    have early := awaited package assigned
    rw [at_] at early
    exact early
  | aside _ same => exact kept same.worker same.life
  | _ => exact kept rfl rfl

theorem PatientRun.awaited (opened : plan.start pipe = .ok start) (grace : 0 < plan.grace)
    (reached : PatientRun start session signals) : Awaited session := by
  have first := coherent_start opened
  induction reached with
  | stay =>
    obtain ⟨-, rfl⟩ := start_eq_ok_iff.mp opened
    exact nofun
  | step earlier patient taken ih =>
    obtain ⟨moves, trace⟩ := earlier.run.trace
    have same := (trace.inward opened).plan_eq
    exact ih.step (first.run earlier.run) (by rw [same]; exact grace) patient taken

structure Over (session : Session Handler) : Prop where
  finished : session.isFinished = true
  unread : session.hasStoppedReading = true
  cancelled : session.cancelled = true
  closed : session.isClosed = true
  unassigned : ∀ package, session.worker ≠ .assigned package

/-- What becomes of an ended session: no handler starts, nothing is queued or written, a handler that
is at work may end, and what waited is skipped from the front. -/
structure Dwindles (session next : Session Handler) (more : List Signal) : Prop where
  started : startedIn more = []
  missed : missedIn more = []
  queued : queuedIn more = []
  written : writtenIn more = []
  content : next.output.content <:+ session.output.content
  completed : completedIn more ++ next.worker.handled = session.worker.handled
  skipped : skippedIn more ++ next.backlog = session.backlog

theorem Dwindles.refl (session : Session Handler) : Dwindles session session [] :=
  ⟨rfl, rfl, rfl, rfl, List.suffix_rfl, rfl, rfl⟩

theorem Dwindles.trans (first : Dwindles session next more) (second : Dwindles next last after) :
    Dwindles session last (more ++ after) := by
  constructor
  · simp [first.started, second.started]
  · simp [first.missed, second.missed]
  · simp [first.queued, second.queued]
  · simp [first.written, second.written]
  · exact second.content.trans first.content
  · rw [completedIn, List.flatMap_append, List.append_assoc, second.completed, first.completed]
  · rw [skippedIn, List.flatMap_append, List.append_assoc, second.skipped, first.skipped]

/-- Where nothing is written, what is on the transport only gets less, from its front. -/
theorem Egress.only_read (egress : Egress session move next more) (silent : writtenIn more = []) :
    next.output.content <:+ session.output.content := by
  have passed := egress.passes_on
  rw [silent, List.append_nil] at passed
  exact ⟨_, passed⟩

theorem Aside.unworked (same : Aside session next more) :
    startedIn more = [] ∧ missedIn more = [] ∧ completedIn more = [] ∧ skippedIn more = [] := by
  refine ⟨?_, ?_, ?_, ?_⟩
  · exact flatMap_outward (by rintro ⟨⟩ <;> simp [Signal.isOutward, Signal.starts]) same.outward
  · exact flatMap_outward (by rintro ⟨⟩ <;> simp [Signal.isOutward, Signal.misses]) same.outward
  · exact flatMap_outward (by rintro ⟨⟩ <;> simp [Signal.isOutward, Signal.completes]) same.outward
  · exact flatMap_outward (by rintro ⟨⟩ <;> simp [Signal.isOutward, Signal.skips]) same.outward

theorem Over.dwindles (past : Over session) (change : Change session move next more)
    (egress : Egress session move next more) : Dwindles session next more := by
  obtain ⟨how, life⟩ := life_of_isFinished past.finished
  have queued := egress.closed_to_senders past.closed
  have written := (egress.done (Writer.isDone_of_isClosed past.closed)).2.2
  have content := egress.only_read written
  have unread := past.unread
  cases change with
  -- reader and close have come to their ends, and make no more moves
  | look at_ | await at_ | resume at_ | read at_ | meetEnd at_ | meetFault at_ | wait at_ | store at_
  | hold at_ | reject at_ | fault at_ | release at_ | abandon _ at_ =>
    simp [hasStoppedReading, at_] at unread
  | leave _ at_ => rcases at_ with at_ | at_ <;> simp [hasStoppedReading, at_] at unread
  | join _ at_ | joinLate _ at_ | hurry at_ | giveUp _ at_ | close at_ =>
    rw [life] at at_
    cases at_
  | take at_ first =>
    refine ⟨rfl, rfl, queued, written, content, ?_, ?_⟩
    · simp [Signal.completes, at_, Worker.handled]
    · simp [Signal.skips, backlog, at_, first, Worker.weighed]
  | skip at_ =>
    refine ⟨rfl, rfl, queued, written, content, ?_, ?_⟩
    · simp [Signal.completes, at_, Worker.handled]
    · simp [Signal.skips, backlog, at_, Worker.weighed]
  | assign _ going =>
    rw [past.cancelled] at going
    cases going
  | start at_ | miss at_ => exact absurd at_ (past.unassigned _)
  | finish at_ =>
    refine ⟨rfl, rfl, queued, written, content, ?_, ?_⟩
    · simp [Signal.completes, at_, Worker.handled]
    · simp [Signal.skips, backlog, at_, Worker.weighed]
  | stop at_ =>
    refine ⟨rfl, rfl, queued, written, content, ?_, ?_⟩
    · simp [at_, Worker.handled]
    · simp [backlog, at_, Worker.weighed]
  | cancel | peerWrite | peerShut | peerDrop => exact ⟨rfl, rfl, queued, written, content, rfl, rfl⟩
  | aside _ same =>
    obtain ⟨started, missed, completed, skipped⟩ := same.unworked
    refine ⟨started, missed, queued, written, content, ?_, ?_⟩
    · rw [completed, same.worker, List.nil_append]
    · rw [skipped, backlog, backlog, same.worker, same.queue, List.nil_append]

theorem Over.change (past : Over session) (change : Change session move next more)
    (egress : Egress session move next more) : Over next := by
  obtain ⟨how, life⟩ := life_of_isFinished past.finished
  have closed := egress.stays_closed past.closed
  have cancelled := change.stays_cancelled past.cancelled
  have unread := past.unread
  have unassigned := past.unassigned
  cases change with
  | look at_ | await at_ | resume at_ | read at_ | meetEnd at_ | meetFault at_ | wait at_ | store at_
  | hold at_ | reject at_ | fault at_ | release at_ | abandon _ at_ =>
    simp [hasStoppedReading, at_] at unread
  | leave _ at_ => rcases at_ with at_ | at_ <;> simp [hasStoppedReading, at_] at unread
  | join _ at_ | joinLate _ at_ | hurry at_ | giveUp _ at_ | close at_ =>
    rw [life] at at_
    cases at_
  | assign _ going =>
    rw [past.cancelled] at going
    cases going
  | take | skip | start | miss | finish | stop =>
    refine ⟨past.finished, unread, cancelled, closed, fun package at_ => ?_⟩
    cases at_
  | cancel | peerWrite | peerShut | peerDrop =>
    exact ⟨past.finished, unread, cancelled, closed, unassigned⟩
  | aside _ same =>
    refine ⟨?_, ?_, cancelled, closed, by rw [same.worker]; exact unassigned⟩
    · simp [isFinished, same.life, life]
    · simpa [hasStoppedReading, same.reader] using unread

theorem Over.run (past : Over session) (coherent : Coherent session)
    (later : Run session last after) : Over last ∧ Dwindles session last after := by
  induction later with
  | stay => exact ⟨past, .refl session⟩
  | step earlier taken ih =>
    obtain ⟨still, sofar⟩ := ih
    have coherent := coherent.run earlier
    have change := coherent.changed taken
    have egress := coherent.egress taken
    exact ⟨still.change change egress, sofar.trans (still.dwindles change egress)⟩

theorem over_of_patientRun (opened : plan.start pipe = .ok start) (grace : 0 < plan.grace)
    (reached : PatientRun start session before) (ended : session.isFinished = true) :
    Over session := by
  obtain ⟨moves, trace⟩ := reached.run.trace
  have coherent := (trace.inward opened).coherent
  have fits := coherent.life
  have awaited := reached.awaited opened grace
  obtain ⟨how, at_⟩ := life_of_isFinished ended
  simp only [LifeFits, at_] at fits
  refine ⟨ended, by simp [hasStoppedReading, fits.1], fits.2, ?_, ?_⟩
  · exact (trace.flushed opened).finished ended
  · intro package assigned
    have early := awaited package assigned
    rw [at_] at early
    exact early

/-- What waits in an ended session has been dealt with when it rests, unless a handler is still at
work. -/
theorem Over.exhausted (past : Over session) (coherent : Coherent session) (quiet : session.Quiet)
    (free : session.worker.handled = []) : session.workerGone = true ∧ session.backlog = [] := by
  cases at_ : session.worker with
  | idle =>
    cases waiting : session.queue with
    | nil =>
      have stuck := quiet (.worker .stop) rfl
      simp [step, stepWorker, at_, waiting, past.unread] at stuck
    | cons package rest =>
      have stuck := quiet (.worker .take) rfl
      simp [step, stepWorker, at_, waiting] at stuck
  | weighing package =>
    have stuck := quiet (.worker .weigh) rfl
    simp [step, stepWorker, at_, past.cancelled] at stuck
  | assigned package => exact absurd at_ (past.unassigned package)
  | handling package handler => simp [at_, Worker.handled] at free
  | stopped =>
    have gone : session.workerGone = true := by simp [workerGone, at_]
    refine ⟨gone, ?_⟩
    simp [backlog, at_, Worker.weighed, (coherent.served gone).2]

theorem sending_of_isClosed (closed : session.isClosed = true) (package : Package) :
    (package.check session.plan.bodyLimit = .ok () →
        session.sending package = .refused .connectionClosed) ∧
      (package.check session.plan.bodyLimit ≠ .ok () →
        ∃ refusal, session.sending package = .refused (.unencodable refusal)) := by
  cases checked : package.check session.plan.bodyLimit with
  | ok => simp [sending, checked, closed]
  | error fault =>
    obtain ⟨refusal, rfl⟩ := Package.unencodable_of_check checked
    simp [sending, checked]

/-- After a session has ended no handler starts and no package is looked up, nothing is written to
the transport, and whoever sends is refused. A handler that the close gave up on may end, once; every
package behind it is skipped and counted as cancelled, and when the session rests without a handler
at work, all of them have been. -/
theorem nothing_follows_close {id : UInt64} {routes : Route.Table Handler} {settings : Settings}
    (accepted : Plan.ofSettings id routes settings = .ok plan)
    (opened : plan.start pipe = .ok start) (reached : PatientRun start session before)
    (ended : session.isFinished = true) (later : Run session last after) :
    (startedIn after = [] ∧ missedIn after = []) ∧
      (completedIn after ++ last.worker.handled = session.worker.handled ∧
        skippedIn after ++ last.backlog = session.backlog ∧
        (last.Quiet → last.worker.handled = [] →
          last.workerGone = true ∧ skippedIn after = session.backlog) ∧
        ∀ metrics : Metrics, (countSignals metrics after).dispatchesCancelled =
          metrics.dispatchesCancelled + .ofNat (skippedIn after).length) ∧
      (writtenIn after = [] ∧ queuedIn after = [] ∧
        last.output.content <:+ session.output.content) ∧
      ∀ package : Package,
        (package.check plan.bodyLimit = .ok () →
          last.sending package = .refused .connectionClosed) ∧
        (package.check plan.bodyLimit ≠ .ok () →
          ∃ refusal, last.sending package = .refused (.unencodable refusal)) := by
  have past := over_of_patientRun opened (Plan.grace_pos accepted) reached ended
  obtain ⟨moves, trace⟩ := (reached.run.trans later).trace
  obtain ⟨rfl, coherent, -⟩ := trace.inward opened
  obtain ⟨still, dwindles⟩ := past.run ((coherent_start opened).run reached.run) later
  refine ⟨⟨dwindles.started, dwindles.missed⟩, ⟨dwindles.completed, dwindles.skipped, ?_, ?_⟩,
    ⟨dwindles.written, dwindles.queued, dwindles.content⟩, sending_of_isClosed still.closed⟩
  · intro quiet free
    obtain ⟨gone, empty⟩ := still.exhausted coherent quiet free
    have skipped := dwindles.skipped
    rw [empty, List.append_nil] at skipped
    exact ⟨gone, skipped⟩
  · exact fun metrics => dispatchesCancelled_countSignals metrics after

/-- A handler is at work that does not look at the close, and a package waits behind it. -/
def detachingMoves : List Move :=
  [.outer (.peerWrite [0, 0, 0, 7, 1, 0, 0, 0, 8, 1]), .reader .check, .reader (.read 10),
    .reader .pull, .worker .take, .worker .weigh, .worker .start, .reader .pull, .outer .cancel,
    .reader .pull, .reader .check, .reader .leave, .writer .stop]

def detachedSession (life : Life) (now : Nat) : Session Unit :=
  { narrowStart with
    input := { capacity := 64, closed := true }
    output := { capacity := 64, closed := true }
    reader := .ended .localClose
    queue := [⟨⟨0, 8, 1⟩, []⟩]
    worker := .handling ⟨⟨0, 7, 1⟩, []⟩ ()
    writer := .stopped
    life
    cancelled := true
    now }

theorem quiet_detached : (detachedSession (.joining 10) 0).Quiet := by
  intro move own
  cases move with
  | outer => cases own
  | reader move | writer move | life move => cases move <;> rfl
  | worker move =>
    cases move with
    | finish => cases own
    | _ => rfl

/-- The handler ends after the session, and the package behind it is skipped. -/
theorem nothing_follows_close_but_end_of_straggler :
    ∃ (last : Session Unit) (before after : List Signal),
      Plan.ofSettings 1 narrowPlan.routes narrowSettings = .ok narrowPlan ∧
        narrowPlan.start 64 = .ok narrowStart ∧
        PatientRun narrowStart (detachedSession (.finished .localClose) 10) before ∧
        Run (detachedSession (.finished .localClose) 10) last after ∧
        completedIn after = [⟨⟨0, 7, 1⟩, []⟩] ∧ startedIn after = [] ∧
        skippedIn after = [⟨⟨0, 8, 1⟩, []⟩] ∧
        (countSignals {} after).dispatchesCancelled = 1 ∧ last.workerGone = true ∧
        last.sending ⟨⟨0, 9, 1⟩, []⟩ = .refused .connectionClosed := by
  have accepted : Plan.ofSettings 1 narrowPlan.routes narrowSettings = .ok narrowPlan := rfl
  have opened : narrowPlan.start 64 = .ok narrowStart := rfl
  obtain ⟨signals, told⟩ : ∃ signals,
      narrowStart.play detachingMoves = some (detachedSession (.joining 10) 0, signals) := ⟨_, rfl⟩
  have rests : PatientRun narrowStart (detachedSession (.joining 10) 0) signals :=
    .of_play told (by simp [detachingMoves])
  have passed : (detachedSession (.joining 10) 0).step (.outer (.pass 10)) =
      some (detachedSession (.joining 10) 10, []) := rfl
  have closed : (detachedSession (.joining 10) 10).play [.life .giveUp, .life .close] =
      some (detachedSession (.finished .localClose) 10, [.gaveUp, .closed .localClose]) := rfl
  have reached := (rests.step (fun _ _ => quiet_detached) passed).trans (.of_play closed (by simp))
  obtain ⟨last, after, played, gone, completed, skipped⟩ :
      ∃ (last : Session Unit) (after : List Signal),
        (detachedSession (.finished .localClose) 10).play
            [.worker (.finish (.returned (.ok ()))), .worker .take, .worker .weigh,
              .worker .stop] = some (last, after) ∧
          last.workerGone = true ∧ completedIn after = [⟨⟨0, 7, 1⟩, []⟩] ∧
          skippedIn after = [⟨⟨0, 8, 1⟩, []⟩] := ⟨_, _, rfl, rfl, rfl, rfl⟩
  have later := (trace_iff_play.mpr played).run
  obtain ⟨⟨started, -⟩, ⟨-, -, -, counted⟩, -, sending⟩ :=
    nothing_follows_close accepted opened reached rfl later
  refine ⟨last, _, after, accepted, opened, reached, later, completed, started, skipped, ?_, gone,
    (sending _).1 rfl⟩
  rw [counted, skipped]
  rfl

end Courier.Session
