import Courier.Proofs.Session.Outflow

/-! How long a close takes. Time passes only while no part of a session can go on, so that a session
that is told to close is, at its next rest, waiting for its worker, and no longer than the grace
period. What comes after that has no deadline: it can wait for a peer who takes nothing more. -/
namespace Courier.Session

variable {Handler : Type} {start session next earlier : Session Handler} {moves : List Move}
  {move : Move} {signals more before after : List Signal} {plan : Plan Handler} {pipe : Nat}

theorem PatientRun.trans (first : PatientRun start session signals)
    (second : PatientRun session next more) : PatientRun start next (signals ++ more) := by
  induction second with
  | stay => simpa using first
  | step _ patient taken ih =>
    rw [← List.append_assoc]
    exact .step ih patient taken

theorem PatientRun.of_play (played : start.play moves = some (session, signals))
    (still : ∀ millis, .outer (.pass millis) ∉ moves) : PatientRun start session signals := by
  have trace := trace_iff_play.mpr played
  clear played
  induction trace with
  | stay => exact .stay
  | step earlier taken ih =>
    refine .step (ih fun millis member => still millis (by simp [member])) ?_ taken
    rintro millis rfl
    exact absurd (by simp) (still millis)

theorem Coherent.now_eq (coherent : Coherent session)
    (taken : session.step move = some (next, more))
    (still : ∀ millis, move ≠ .outer (.pass millis)) : next.now = session.now := by
  have egress := coherent.egress taken
  cases egress with
  | pass => exact absurd rfl (still _)
  | refuse | fail | stop | stopLate | leave => rw [stopWriting_eq]
  | apart _ same => exact same.now
  | _ => rfl

theorem Coherent.now_le (coherent : Coherent session)
    (taken : session.step move = some (next, more)) : session.now ≤ next.now := by
  by_cases passes : ∃ millis, move = .outer (.pass millis)
  · obtain ⟨millis, rfl⟩ := passes
    cases taken
    exact Nat.le_add_right _ _
  · have same := coherent.now_eq taken fun millis same => passes ⟨millis, same⟩
    exact Nat.le_of_eq same.symm

theorem Quiet.hasStoppedReading (quiet : session.Quiet) (cancelled : session.cancelled = true) :
    session.hasStoppedReading = true := by
  cases at_ : session.reader with
  | checking =>
    have stuck := quiet (.reader .check) rfl
    simp only [step, stepReader, at_] at stuck
    split at stuck <;> cases stuck
  | stalled | reading | holding =>
    have stuck := quiet (.reader .leave) rfl
    simp [step, stepReader, at_, cancelled] at stuck
  | scanning =>
    have stuck := quiet (.reader .pull) rfl
    simp only [step, stepReader, at_] at stuck
    split at stuck <;> cases stuck
  | ended how => simp [Session.hasStoppedReading, at_]

/-- The close is past its reader: it waits for the worker until a deadline, or for the writer, or
for nothing. -/
def Life.IsLate : Life → Prop
  | .running | .draining => False
  | .joining _ | .closing | .finished _ => True

theorem Coherent.isLate (coherent : Coherent session) (cancelled : session.cancelled = true)
    (quiet : session.Quiet) : session.life.IsLate := by
  have stopped := quiet.hasStoppedReading cancelled
  have fits := coherent.life
  cases at_ : session.life with
  | running => simp [LifeFits, at_, stopped] at fits
  | draining =>
    have stuck := quiet (.life .hurry) rfl
    simp [step, stepLife, at_, cancelled] at stuck
  | joining | closing | finished => trivial

/-- The close waits for the worker no longer than the grace period from now. -/
def Dated (session : Session Handler) : Prop :=
  ∀ deadline, session.life = .joining deadline → deadline ≤ session.now + session.plan.grace

theorem dated_endReading (session : Session Handler) (how : End) :
    Dated (session.endReading how) := by
  rw [endReading_eq]
  intro deadline at_
  cases how <;> cases at_ <;> exact Nat.le_refl _

theorem Dated.step (dated : Dated session) (coherent : Coherent session)
    (taken : session.step move = some (next, more)) : Dated next := by
  have change := coherent.changed taken
  have later := coherent.now_le taken
  have plan := change.plan_eq
  -- a deadline that was set before only comes nearer
  have kept : next.life = session.life → Dated next := by
    intro life deadline at_
    rw [life] at at_
    rw [plan]
    exact Nat.le_trans (dated deadline at_) (Nat.add_le_add_right later _)
  cases change with
  | meetEnd | meetFault | leave | abandon | reject | fault => exact dated_endReading _ _
  | join | joinLate | giveUp | close => exact nofun
  | hurry =>
    rintro deadline ⟨⟩
    exact Nat.le_refl _
  | aside _ same => exact kept same.life
  | _ => exact kept rfl

theorem dated_of_run (opened : plan.start pipe = .ok start) (run : Run start session signals) :
    Dated session := by
  have first := coherent_start opened
  induction run with
  | stay =>
    obtain ⟨-, rfl⟩ := start_eq_ok_iff.mp opened
    exact nofun
  | step earlier taken ih => exact ih.step (first.run earlier) taken

/-- No time is lost since the moment `since`, at which the session had been told to close: until the
reader and the queue are left none passes, and the wait for the worker ends a grace period later. -/
structure Prompt (since : Nat) (session : Session Handler) : Prop where
  cancelled : session.cancelled = true
  early : ¬ session.life.IsLate → session.now = since
  deadline : ∀ deadline, session.life = .joining deadline → deadline ≤ since + session.plan.grace

theorem Prompt.endReading {since : Nat} (prompt : Prompt since session)
    (running : session.life = .running) (how : End) : Prompt since (session.endReading how) := by
  have now := prompt.early (by rw [running]; exact id)
  refine ⟨cancelled_endReading session how prompt.cancelled, ?_, ?_⟩
  · rw [endReading_eq]
    exact fun _ => now
  · rw [← now]
    have dated := dated_endReading session how
    rw [endReading_eq] at dated ⊢
    exact dated

theorem Prompt.step {since : Nat} (prompt : Prompt since session) (coherent : Coherent session)
    (patient : ∀ millis, move = .outer (.pass millis) → session.Quiet)
    (taken : session.step move = some (next, more)) : Prompt since next := by
  by_cases passes : ∃ millis, move = .outer (.pass millis)
  · obtain ⟨millis, rfl⟩ := passes
    have late := coherent.isLate prompt.cancelled (patient millis rfl)
    cases taken
    exact ⟨prompt.cancelled, fun early => absurd late early, prompt.deadline⟩
  have now := coherent.now_eq taken fun millis same => passes ⟨millis, same⟩
  have change := coherent.changed taken
  have plan := change.plan_eq
  have kept : next.life = session.life → next.cancelled = true → Prompt since next := by
    intro life cancelled
    refine ⟨cancelled, ?_, ?_⟩
    · rw [life, now]
      exact prompt.early
    · rw [life, plan]
      exact prompt.deadline
  cases change with
  | meetEnd at_ | meetFault at_ | abandon _ at_ =>
    exact prompt.endReading (coherent.running (by simp [hasStoppedReading, at_])) _
  | leave _ at_ =>
    refine prompt.endReading (coherent.running ?_) _
    rcases at_ with at_ | at_ <;> simp [hasStoppedReading, at_]
  | @reject decoder _ _ at_ | @fault decoder _ at_ =>
    have running := coherent.running (by simp [hasStoppedReading, at_])
    have same : Prompt since { session with decoder } :=
      ⟨prompt.cancelled, prompt.early, prompt.deadline⟩
    exact same.endReading running _
  | join =>
    refine ⟨rfl, fun early => absurd trivial early, ?_⟩
    rintro deadline ⟨⟩
  | joinLate | giveUp | close =>
    refine ⟨prompt.cancelled, fun early => absurd trivial early, ?_⟩
    rintro deadline ⟨⟩
  | hurry at_ =>
    refine ⟨prompt.cancelled, fun early => absurd trivial early, ?_⟩
    rintro deadline ⟨⟩
    rw [← prompt.early (by rw [at_]; exact id)]
    exact Nat.le_refl _
  | cancel => exact kept rfl rfl
  | aside _ same => exact kept same.life (by rw [same.cancelled, prompt.cancelled])
  | _ => exact kept rfl prompt.cancelled

theorem prompt_of_patientRun (coherent : Coherent earlier) (dated : Dated earlier)
    (cancelled : earlier.cancelled = true) (run : PatientRun earlier session signals) :
    Prompt earlier.now session := by
  induction run with
  | stay => exact ⟨cancelled, fun _ => rfl, dated⟩
  | step before patient taken ih => exact ih.step (coherent.run before.run) patient taken

/-- The close waits for the writer, which waits for the peer to make room. -/
structure Clogged (session : Session Handler) : Prop where
  life : session.life = .closing
  writing : ∃ package rest, session.writer = .writing package rest
  going : session.output.closed = false
  full : session.output.room = 0

/-- A writer that rests without having stopped, although it has been told to, waits for room. -/
theorem Outflow.full (outflow : Outflow session moves signals)
    (cancelled : session.cancelled = true) (quiet : session.Quiet)
    (going : session.isClosed = false) :
    (∃ package rest, session.writer = .writing package rest) ∧ session.output.closed = false ∧
      session.output.room = 0 := by
  obtain ⟨owed, begun, -, -, owes⟩ := outflow.order
  cases at_ : session.writer with
  | idle =>
    cases waiting : session.outbound with
    | nil =>
      have stuck := quiet (.writer .stop) rfl
      simp [step, stepWriter, at_, waiting, cancelled] at stuck
    | cons package outbound =>
      have stuck := quiet (.writer .pick) rfl
      simp only [step, stepWriter, at_, waiting] at stuck
      split at stuck <;> cases stuck
  | writing package rest =>
    rw [at_] at owes
    obtain ⟨-, -, left⟩ := owes
    have open_ : session.output.closed = false := by
      have stuck := quiet (.writer .meetFault) rfl
      simpa [step, stepWriter, at_] using stuck
    refine ⟨⟨package, rest, rfl⟩, open_, ?_⟩
    refine Decidable.byContradiction fun room => ?_
    have stuck := quiet (.writer (.write 1)) rfl
    have possible : 1 ≤ rest.length ∧ 1 ≤ session.output.room :=
      ⟨List.length_pos_iff.mpr left, Nat.one_le_iff_ne_zero.mpr room⟩
    simp only [step, stepWriter, at_, open_, possible, Nat.zero_lt_one, Bool.not_false,
      Bool.true_and, decide_true, if_true] at stuck
    split at stuck <;> cases stuck
  | retiring =>
    have stuck := quiet (.writer .stop) rfl
    simp [step, stepWriter, at_] at stuck
  | stopped => simp [isClosed, at_] at going

theorem Clogged.isFinished (clogged : Clogged session) : session.isFinished = false := by
  simp [Session.isFinished, clogged.life]

theorem Clogged.stepWriter (clogged : Clogged session) (move : WriterMove) :
    session.stepWriter move = none := by
  obtain ⟨package, rest, at_⟩ := clogged.writing
  cases move with
  | write count =>
    have impossible : ¬ (0 < count ∧ count ≤ session.output.room) := by
      rw [clogged.full]
      omega
    simp only [Session.stepWriter, at_]
    split
    · rename_i possible
      simp only [Bool.and_eq_true, decide_eq_true_eq] at possible
      exact absurd ⟨possible.1.1.2, possible.2⟩ impossible
    · rfl
  | meetFault => simp [Session.stepWriter, at_, clogged.going]
  | pick | retire | stop | leave => simp [Session.stepWriter, at_]

/-- Once a session has been told to close and the grace period is over, it has finished when it
rests, whatever its handlers do, unless its writer waits for a peer who takes nothing more. There is
no deadline for that. -/
theorem overdue_close_awaits_peer (opened : plan.start pipe = .ok start)
    (reached : PatientRun start earlier before) (told : earlier.cancelled = true)
    (later : PatientRun earlier session after) (overdue : earlier.now + plan.grace ≤ session.now)
    (quiet : session.Quiet) : session.isFinished = false ↔ Clogged session := by
  refine ⟨fun unfinished => ?_, Clogged.isFinished⟩
  have first := coherent_start opened
  obtain ⟨moves, trace⟩ := (reached.trans later).run.trace
  obtain ⟨rfl, coherent, -⟩ := trace.inward opened
  have prompt := prompt_of_patientRun (first.run reached.run) (dated_of_run opened reached.run)
    told later
  have late := coherent.isLate prompt.cancelled quiet
  have fits := coherent.life
  cases at_ : session.life with
  | running | draining => simp [Life.IsLate, at_] at late
  | joining deadline =>
    -- the deadline has come, so that the wait for the worker is over either way
    have due := Nat.le_trans (prompt.deadline deadline at_) overdue
    cases work : session.worker with
    | stopped =>
      have stuck := quiet (.life .join) rfl
      simp [step, stepLife, at_, work] at stuck
    | idle | weighing | assigned | handling =>
      have stuck := quiet (.life .giveUp) rfl
      simp [step, stepLife, at_, work, due] at stuck
  | closing =>
    obtain ⟨how, ended⟩ : ∃ how, session.reader = .ended how := by
      simp only [LifeFits, at_] at fits
      exact ended_of_hasStoppedReading fits.1
    have going : session.isClosed = false := by
      cases writer : session.writer with
      | idle | writing | retiring => simp [isClosed, writer]
      | stopped =>
        have stuck := quiet (.life .close) rfl
        simp [step, stepLife, at_, writer, ended] at stuck
    obtain ⟨writing, going, full⟩ := (trace.outflow opened).full prompt.cancelled quiet going
    exact ⟨at_, writing, going, full⟩
  | finished how => simp [Session.isFinished, at_] at unfinished

/-- The session is told to close while a handler is at work that never finishes. -/
def stubbornMoves : List Move :=
  [.outer (.peerWrite [0, 0, 0, 7, 1]), .reader .check, .reader (.read 5), .reader .pull,
    .worker .take, .worker .weigh, .worker .start, .outer (.send ⟨⟨0, 8, 2⟩, []⟩), .reader .pull,
    .reader .check, .outer .cancel]

def leavingMoves : List Move :=
  [.reader .leave, .writer .pick, .writer (.write 5), .writer .stop]

def stubbornSession (life : Life) (now : Nat) : Session Unit :=
  { narrowStart with
    input := { capacity := 64, closed := true }
    output := { capacity := 64, content := [0, 0, 0, 8, 2], closed := true }
    reader := .ended .localClose
    worker := .handling ⟨⟨0, 7, 1⟩, []⟩ ()
    writer := .stopped
    life
    cancelled := true
    now }

theorem quiet_stubborn {life : Life} {now : Nat}
    (waits : ∀ move, (stubbornSession life now).stepLife move = none) :
    (stubbornSession life now).Quiet := by
  intro move own
  cases move with
  | life move => exact waits move
  | outer => cases own
  | reader move => cases move <;> rfl
  | writer move => cases move <;> rfl
  | worker move =>
    cases move with
    | finish => cases own
    | _ => rfl

theorem overdue_close_awaits_peer_and_no_handler :
    ∃ (told : Session Unit) (before after : List Signal),
      narrowPlan.start 64 = .ok narrowStart ∧ PatientRun narrowStart told before ∧
        told.cancelled = true ∧
        PatientRun told (stubbornSession (.finished .localClose) 10) after ∧
        told.now + narrowPlan.grace ≤ 10 ∧
        (stubbornSession (.finished .localClose) 10).Quiet ∧
        ¬ Clogged (stubbornSession (.finished .localClose) 10) := by
  have opened : narrowPlan.start 64 = .ok narrowStart := rfl
  obtain ⟨told, before, played, cancelled, now, rested⟩ :
      ∃ (told : Session Unit) (before : List Signal),
        narrowStart.play stubbornMoves = some (told, before) ∧ told.cancelled = true ∧
        told.now = 0 ∧ ∃ signals,
          told.play leavingMoves = some (stubbornSession (.joining 10) 0, signals) :=
    ⟨_, _, rfl, rfl, rfl, _, rfl⟩
  obtain ⟨signals, left⟩ := rested
  have waiting : (stubbornSession (.joining 10) 0).Quiet :=
    quiet_stubborn fun move => by cases move <;> rfl
  have quiet : (stubbornSession (.finished .localClose) 10).Quiet :=
    quiet_stubborn fun move => by cases move <;> rfl
  have reached : PatientRun narrowStart told before := .of_play played (by simp [stubbornMoves])
  have rests : PatientRun told (stubbornSession (.joining 10) 0) signals :=
    .of_play left (by simp [leavingMoves])
  have passed : (stubbornSession (.joining 10) 0).step (.outer (.pass 10)) =
      some (stubbornSession (.joining 10) 10, []) := rfl
  have closed : (stubbornSession (.joining 10) 10).play [.life .giveUp, .life .close] =
      some (stubbornSession (.finished .localClose) 10, [.gaveUp, .closed .localClose]) := rfl
  have later := (rests.step (fun _ _ => waiting) passed).trans (.of_play closed (by simp))
  have overdue : told.now + narrowPlan.grace ≤ 10 := by
    rw [now]
    decide
  refine ⟨told, before, _, opened, reached, cancelled, later, overdue, quiet, ?_⟩
  rw [← overdue_close_awaits_peer opened reached cancelled later overdue quiet]
  decide

/-- The least configuration that a session can have. -/
def narrowSettings : Settings where
  framing := { maxBodyLength := 4 }
  session := {
    dispatchQueueLimit := 1
    outboundQueueLimit := 1
    readBufferSize := 64
    shutdownTimeout := .ofMillis 10 }

/-- The session is told to close while a frame is in the writer for which the peer has no room. -/
def unreadMoves : List Move :=
  [.outer (.send ⟨⟨0, 7, 1⟩, []⟩), .writer .pick, .writer (.write 4), .reader .check,
    .outer .cancel]

def unreadSession (now : Nat) : Session Unit :=
  { tightStart with
    output := { capacity := 4, content := [0, 0, 0, 7] }
    reader := .ended .localClose
    worker := .stopped
    writer := .writing ⟨⟨0, 7, 1⟩, []⟩ [1]
    life := .closing
    cancelled := true
    now }

theorem quiet_unread (now : Nat) : (unreadSession now).Quiet := by
  intro move own
  cases move with
  | outer => cases own
  | reader move => cases move <;> rfl
  | worker move =>
    cases move with
    | finish => cases own
    | _ => rfl
  | life move => cases move <;> rfl
  | writer move =>
    have clogged : Clogged (unreadSession now) := ⟨rfl, ⟨_, _, rfl⟩, rfl, rfl⟩
    exact clogged.stepWriter move

/-- A session that was told to close never finishes while its peer takes nothing, however long the
grace period has been over. -/
theorem unread_output_outlasts_grace :
    Plan.ofSettings 1 narrowPlan.routes narrowSettings = .ok narrowPlan ∧
      narrowPlan.start 4 = .ok tightStart ∧
      ∃ (told : Session Unit) (before : List Signal),
        PatientRun tightStart told before ∧ told.cancelled = true ∧
        ∀ now, told.now + narrowPlan.grace ≤ now →
          ∃ after, PatientRun told (unreadSession now) after ∧ (unreadSession now).Quiet ∧
            (unreadSession now).isFinished = false := by
  obtain ⟨told, before, played, cancelled, at_, rested⟩ :
      ∃ (told : Session Unit) (before : List Signal),
        tightStart.play unreadMoves = some (told, before) ∧ told.cancelled = true ∧
        told.now = 0 ∧ ∃ signals,
          told.play [.reader .leave, .worker .stop, .life .join] =
            some (unreadSession 0, signals) := ⟨_, _, rfl, rfl, rfl, _, rfl⟩
  obtain ⟨signals, closing⟩ := rested
  refine ⟨rfl, rfl, told, before, .of_play played (by simp [unreadMoves]), cancelled, ?_⟩
  intro now overdue
  have rests : PatientRun told (unreadSession 0) signals := .of_play closing (by simp)
  have passed : (unreadSession 0).step (.outer (.pass now)) = some (unreadSession now, []) := by
    simp [step, stepOuter, unreadSession]
  exact ⟨_, rests.step (fun _ _ => quiet_unread 0) passed, quiet_unread now, rfl⟩

end Courier.Session
