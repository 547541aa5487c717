import Courier.Proofs.RoundTrip
import Courier.Proofs.Session.Delivery
import Courier.Proofs.Session.Jobs
import Courier.Proofs.Session.Tally

namespace Courier

namespace Package

/-- The same id and body under the next kind, the first one after the last. -/
def answer (package : Package) : Package :=
  { package with kind := package.kind + 1 }

theorem Fits.answer {limit : UInt16} {package : Package} (fits : package.Fits limit) :
    package.answer.Fits limit :=
  ⟨fits.declared, fits.within⟩

/-- A package that keeps the length rules is answered, however its length is found. -/
theorem Fits.ofBody_eq {limit : UInt16} {package : Package} (fits : package.Fits limit) :
    ofBody package.id (package.kind + 1) package.body = .ok package.answer := by
  have declared := fits.declared
  have short : package.body.length < UInt16.size := by
    rw [← declared]
    exact package.bodyLength.toNat_lt
  have same : UInt16.ofNat package.body.length = package.bodyLength := by
    rw [← declared, UInt16.ofNat_toNat]
  simp [ofBody, ofBody?, short, same, Package.answer]

end Package

theorem Invocation.demand_echo {invocation : Invocation} {limit : UInt16}
    (left : invocation.actions = [.echo]) (fits : invocation.package.Fits limit) :
    invocation.demand = .room invocation.package.answer := by
  simp [demand, left, Action.demand, Action.demand.reply, fits.ofBody_eq]

theorem Invocation.demand_nil {invocation : Invocation} (left : invocation.actions = []) :
    invocation.demand = .finish (.returned (.ok ())) := by
  simp [demand, left]

namespace Session

open Package (wire)

/-- Only the peer, the clock and the session move, nobody sends but the handlers, and nobody tells
the session to close. -/
def Live.Move.isPlain : Live.Move → Bool
  | .session (.outer (.send _)) => false
  | .session move => move.isCalm
  | .job | .grant _ => true

/-- The package is handed to a handler that sends its echo and does nothing else. -/
def Plan.Echoes (plan : Plan Handler) (package : Package) : Prop :=
  ∃ handler, plan.routes.resolve? package = some handler ∧ handler.actions = [.echo]

/-- How far the handler at work has come, if there is one, and which package it has answered. -/
inductive Stage : Worker Handler → Option Job → List Package → Prop where
  | free {worker : Worker Handler}
      (rests : ∀ package handler, worker ≠ .handling package handler) : Stage worker none []
  | begun {package : Package} {handler : Handler} {job : Job}
      (same : job.invocation.package = package) (left : job.invocation.actions = [.echo]) :
      Stage (.handling package handler) (some job) []
  | answered {package : Package} {handler : Handler} {job : Job}
      (same : job.invocation.package = package) (left : job.invocation.actions = []) :
      Stage (.handling package handler) (some job) [package]

/-- Each package that was handed on has been answered in its turn, before the session closed. -/
structure Echoing (start : Session Handler) (live : Live) (driven : List Move)
    (signals : List Signal) : Prop where
  answers : ∃ answered, Stage live.session.worker live.job answered ∧
    queuedIn signals = (succeededIn signals ++ answered).map Package.answer
  failed : failedIn signals = []
  missed : missedIn signals = []
  early : QueuedBefore start driven (queuedIn signals)

variable {live next : Live} {start session after : Session Handler} {moves : List Live.Move}
  {driven : List Session.Move} {signals more : List Signal} {plan : Plan Handler} {pipe : Nat}
  {move own : Session.Move}

/-- No handler starts, ends or is missing. -/
structure Unhandled (session next : Session Handler) (more : List Signal) : Prop where
  worker : next.worker = session.worker ∨
    (∀ package handler, session.worker ≠ .handling package handler) ∧
      ∀ package handler, next.worker ≠ .handling package handler
  succeeded : succeededIn more = []
  failed : failedIn more = []
  missed : missedIn more = []

theorem Change.unhandled (change : Change session move after more)
    (starts : move ≠ .worker .start) (finishes : ∀ verdict, move ≠ .worker (.finish verdict)) :
    Unhandled session after more := by
  cases change with
  | meetEnd | meetFault | leave | abandon | reject | fault =>
    rw [endReading_eq]
    exact ⟨.inl rfl, by simp [Signal.succeeds], by simp [Signal.fails], by simp [Signal.misses]⟩
  | start | miss => exact absurd rfl starts
  | finish => exact absurd rfl (finishes _)
  | take at_ | skip at_ | assign at_ | stop at_ =>
    exact ⟨.inr ⟨by simp [at_], by simp⟩, rfl, rfl, rfl⟩
  | aside _ same =>
    refine ⟨.inl same.worker, ?_, ?_, ?_⟩
    · exact flatMap_outward (by rintro ⟨⟩ <;> simp [Signal.isOutward, Signal.succeeds]) same.outward
    · exact flatMap_outward (by rintro ⟨⟩ <;> simp [Signal.isOutward, Signal.fails]) same.outward
    · exact flatMap_outward (by rintro ⟨⟩ <;> simp [Signal.isOutward, Signal.misses]) same.outward
  | _ => exact ⟨.inl rfl, rfl, rfl, rfl⟩

theorem Egress.queues_nothing (egress : Egress session move after more)
    (sends : ∀ package, move ≠ .outer (.send package)) : queuedIn more = [] := by
  cases egress with
  | send => exact absurd rfl (sends _)
  | apart _ same => exact (unmoved_of_inward same.inward).queued
  | _ => rfl

theorem Stage.none_at_work {worker : Worker Handler} {job : Option Job} {answered : List Package}
    (stage : Stage worker job answered)
    (rests : ∀ package handler, worker ≠ .handling package handler) :
    job = none ∧ answered = [] := by
  cases stage with
  | free => exact ⟨rfl, rfl⟩
  | begun | answered => exact absurd rfl (rests _ _)

theorem Stage.unhandled {job : Option Job} {answered : List Package}
    (stage : Stage session.worker job answered) (unhandled : Unhandled session after more) :
    Stage after.worker job answered := by
  rcases unhandled.worker with same | ⟨rested, rests⟩
  · rw [same]
    exact stage
  · obtain ⟨rfl, rfl⟩ := stage.none_at_work rested
    exact .free rests

theorem Stage.of_room {worker : Worker Handler} {job : Job} {answered : List Package}
    {package : Package} {limit : UInt16} (stage : Stage worker (some job) answered)
    (fits : ∀ package ∈ worker.inHand, package.Fits limit)
    (needs : job.invocation.demand = .room package) :
    answered = [] ∧ ∃ request handler, worker = .handling request handler ∧
      job.invocation.package = request ∧ job.invocation.actions = [.echo] ∧
      package = request.answer := by
  cases stage with
  | begun same left =>
    subst same
    rw [Invocation.demand_echo left (fits _ (by simp [Worker.inHand]))] at needs
    cases needs
    exact ⟨rfl, _, _, rfl, rfl, left, rfl⟩
  | answered same left =>
    rw [Invocation.demand_nil left] at needs
    cases needs

theorem Stage.of_finish {worker : Worker Handler} {job : Job} {answered : List Package}
    {verdict : Verdict} {limit : UInt16} (stage : Stage worker (some job) answered)
    (fits : ∀ package ∈ worker.inHand, package.Fits limit)
    (needs : job.invocation.demand = .finish verdict) :
    verdict = .returned (.ok ()) ∧ ∃ request handler, worker = .handling request handler ∧
      answered = [request] := by
  cases stage with
  | begun same left =>
    subst same
    rw [Invocation.demand_echo left (fits _ (by simp [Worker.inHand]))] at needs
    cases needs
  | answered same left =>
    rw [Invocation.demand_nil left] at needs
    cases needs
    exact ⟨rfl, _, _, rfl, rfl⟩

theorem Stage.of_job {worker : Worker Handler} {job : Job} {answered : List Package} {limit : UInt16}
    (stage : Stage worker (some job) answered)
    (fits : ∀ package ∈ worker.inHand, package.Fits limit) :
    (∃ package, job.invocation.demand = .room package) ∨
      ∃ verdict, job.invocation.demand = .finish verdict := by
  cases stage with
  | begun same left =>
    subst same
    exact .inl ⟨_, Invocation.demand_echo left (fits _ (by simp [Worker.inHand]))⟩
  | answered same left => exact .inr ⟨_, Invocation.demand_nil left⟩

theorem sending_ne_refused {package : Package} (going : session.isClosed = false)
    (fits : package.Fits session.plan.bodyLimit) (fault : Fault) :
    session.sending package ≠ .refused fault := by
  unfold sending
  rw [Package.check_eq_ok_iff.mpr fits]
  simp only [going, Bool.false_eq_true, if_false]
  split <;> exact nofun

/-- The writer stops behind the handler, and the session closes behind it. -/
theorem Calm.handling (calm : Calm session) {package : Package} {handler : Handler}
    (at_ : session.worker = .handling package handler) :
    session.cancelled = false ∧ session.isClosed = false := by
  have busy : session.workerGone = false := by simp [workerGone, at_]
  refine ⟨Bool.eq_false_iff.mpr fun cancelled => ?_, Bool.eq_false_iff.mpr fun closed => ?_⟩
  · rw [calm.cancelled cancelled] at busy
    cases busy
  · rw [calm.done (Writer.isDone_of_isClosed closed)] at busy
    cases busy

theorem echoing_start (opened : plan.start pipe = .ok start) :
    Echoing start { session := start } [] [] := by
  obtain ⟨-, rfl⟩ := start_eq_ok_iff.mp opened
  exact ⟨⟨[], .free nofun, rfl⟩, rfl, rfl, [], [], _, [], rfl, rfl, rfl, rfl⟩

/-- The handler that has been at work stays there, or there is none. -/
theorem Echoing.still (echoing : Echoing start live driven signals) (rest : List Move)
    (unhandled : Unhandled live.session next.session more) (job : next.job = live.job)
    (unqueued : queuedIn more = []) :
    Echoing start next (driven ++ rest) (signals ++ more) := by
  obtain ⟨⟨answered, stage, queued⟩, failed, missed, early⟩ := echoing
  have same : queuedIn (signals ++ more) = queuedIn signals := by simp [unqueued]
  refine ⟨⟨answered, ?_, ?_⟩, ?_, ?_, ?_⟩
  · rw [job]
    exact stage.unhandled unhandled
  · rw [same, queued]
    simp [unhandled.succeeded]
  · simp [failed, unhandled.failed]
  · simp [missed, unhandled.missed]
  · rw [same]
    exact early.append rest

theorem Echoing.turn {move : Live.Move} (echoing : Echoing start live driven signals)
    (earlier : Live.Trace { session := start } live moves driven signals)
    (coherent : Coherent live.session) (calm : Calm live.session) (plain : move.isPlain = true)
    (echoes : ∀ package ∈ live.session.worker.inHand,
      package.Fits live.session.plan.bodyLimit ∧ live.session.plan.Echoes package)
    (turn : Live.Turn live move next more) :
    Echoing start next (driven ++ (live.drives move).toList) (signals ++ more) := by
  have later := (earlier.step turn).session
  have fits := fun package member => (echoes package member).1
  obtain ⟨⟨answered, stage, queued⟩, failed, missed, early⟩ := id echoing
  cases turn with
  | @own move session signals starts finishes taken =>
    have sends : ∀ package, move ≠ .outer (.send package) := by
      rintro package rfl
      cases plain
    exact echoing.still _ ((coherent.changed taken).unhandled starts finishes) rfl
      ((coherent.egress taken).queues_nothing sends)
  | grant => exact echoing.still _ ⟨.inl rfl, rfl, rfl, rfl⟩ rfl rfl
  | @start package handler at_ routed =>
    obtain ⟨-, echo, resolved, only⟩ := echoes package (by simp [at_, Worker.inHand])
    rw [routed] at resolved
    cases resolved
    obtain ⟨-, rfl⟩ := stage.none_at_work (by simp [at_])
    refine ⟨⟨[], .begun rfl only, ?_⟩, ?_, ?_, ?_⟩
    · simpa [Signal.queues, Signal.succeeds] using queued
    · simpa [Signal.fails] using failed
    · simpa [Signal.misses] using missed
    · simpa [Signal.queues] using early.append _
  | @miss package at_ unrouted =>
    obtain ⟨-, echo, resolved, -⟩ := echoes package (by simp [at_, Worker.inHand])
    rw [unrouted] at resolved
    cases resolved
  | sleep at_ needs | wake at_ needs | allow at_ needs | heed at_ needs =>
    rw [at_] at stage
    rcases stage.of_job fits with ⟨package, asks⟩ | ⟨verdict, asks⟩
    all_goals
      rw [needs] at asks
      cases asks
  | @send job answer session signals at_ needs accepted taken =>
    rw [at_] at stage
    obtain ⟨rfl, package, handler, work, same, left, rfl⟩ := stage.of_room fits needs
    cases coherent.egress taken with
    | send =>
      -- a session whose handler is at work has not begun to close, so the answer is early enough
      refine ⟨⟨[package], ?_, ?_⟩, ?_, ?_, ?_⟩
      · have resumed : job.invocation.resume.actions = [] := by simp [Invocation.resume, left]
        show Stage live.session.worker (some { invocation := job.invocation.resume }) [package]
        rw [work]
        exact .answered same resumed
      · simp [queued, Signal.queues, Signal.succeeds]
      · simpa [Signal.fails] using failed
      · simpa [Signal.misses] using missed
      · exact .now (trace_iff_play.mp later) (calm.handling work).1
    | apart inward => cases inward
  | @refuse job answer fault session signals at_ needs refused taken =>
    rw [at_] at stage
    obtain ⟨-, package, handler, work, -, -, rfl⟩ := stage.of_room fits needs
    have suits := fits package (by simp [work, Worker.inHand])
    exact absurd refused (sending_ne_refused (calm.handling work).2 suits.answer fault)
  | @finish job verdict session signals at_ needs taken =>
    rw [at_] at stage
    obtain ⟨rfl, package, handler, work, rfl⟩ := stage.of_finish fits needs
    cases coherent.changed taken with
    | finish working =>
      rw [work] at working
      cases working
      refine ⟨⟨[], .free (by simp), ?_⟩, ?_, ?_, ?_⟩
      · simpa [Signal.queues, Signal.succeeds] using queued
      · simpa [Signal.fails] using failed
      · simpa [Signal.misses] using missed
      · simpa [Signal.queues] using early.append _
    | aside aside => cases aside

theorem Live.calm_of_drives {move : Live.Move} (plain : move.isPlain = true)
    (drives : live.drives move = some own) : own.isCalm = true := by
  cases move with
  | session move =>
    cases drives
    unfold Live.Move.isPlain at plain
    split at plain <;> simp_all
  | grant => cases drives
  | job => rcases drives_job drives with ⟨package, rfl⟩ | ⟨verdict, rfl⟩ <;> rfl

theorem Live.Trace.calm (trace : Live.Trace { session := start } live moves driven signals)
    (plain : ∀ move ∈ moves, move.isPlain = true) : ∀ own ∈ driven, own.isCalm = true := by
  induction trace with
  | stay => exact nofun
  | step _ _ ih =>
    intro own member
    rcases List.mem_append.mp member with earlier | now
    · exact ih (fun move member => plain move (List.mem_append_left _ member)) own earlier
    · exact calm_of_drives (plain _ (by simp)) (Option.mem_toList.mp now)

theorem Service.in_hand (service : Service session signals) {package : Package}
    (member : package ∈ session.worker.inHand) : package ∈ takenIn signals := by
  obtain ⟨dispatches, skips, rounds⟩ := service.rounds
  rw [rounds.taken]
  exact List.mem_append_right _ member

theorem Live.Trace.echoing (opened : plan.start pipe = .ok start)
    (trace : Live.Trace { session := start } live moves driven signals)
    (plain : ∀ move ∈ moves, move.isPlain = true)
    (sound : ∀ fault, live.session.reader ≠ .ended (.failed fault))
    (echoes : ∀ package ∈ takenIn signals,
      package.Fits plan.bodyLimit ∧ plan.Echoes package) :
    Echoing start live driven signals := by
  induction trace with
  | stay => exact echoing_start opened
  | @step live next moves driven signals more move earlier turn ih =>
    have before : ∀ move ∈ moves, move.isPlain = true :=
      fun move member => plain move (List.mem_append_left _ member)
    have inward := earlier.session.inward opened
    have going : ∀ fault, live.session.reader ≠ .ended (.failed fault) := by
      intro fault failed
      rcases turn.moves_session with ⟨-, same, -⟩ | ⟨own, -, taken⟩
      · exact sound fault (by rw [same, failed])
      · exact sound fault ((inward.coherent.changed taken).stays_failed failed)
    have known : ∀ package ∈ takenIn signals,
        package.Fits plan.bodyLimit ∧ plan.Echoes package :=
      fun package member => echoes package (by simp [takenIn, List.mem_append, member])
    have calm := earlier.session.calm opened (earlier.calm before) going
    refine (ih before going known).turn earlier inward.coherent calm (plain move (by simp)) ?_ turn
    -- what the worker has in its hand it has taken
    intro package member
    rw [inward.plan_eq]
    exact known package (inward.service.in_hand member)

/-- A peer sends packages to a session in which each of them is handed to a handler that answers it,
and nobody else sends, tells the session to close or disturbs the transport. If the session ends, it
ends with the stream of the peer. What the peer has read, and can read on, are the frames of the
answers in the order of the packages, and after them the end; each package is counted once as
dispatched and once as sent, and no handler has failed. -/
theorem echo_end_to_end {requests : List Package} {how : End}
    (opened : plan.start pipe = .ok start)
    (played : ({ session := start } : Live).play moves = some (live, driven, signals))
    (plain : ∀ move ∈ moves, move.isPlain = true)
    (fits : ∀ package ∈ requests, package.Fits plan.bodyLimit)
    (echoes : ∀ package ∈ requests, plan.Echoes package) (sent : sentIn driven = wire requests)
    (ended : live.session.end? = some how) :
    how = .peerClosed ∧
      (∀ package ∈ requests,
        Package.ofBody package.id (package.kind + 1) package.body = .ok package.answer) ∧
      start.peerReads driven ++ live.session.output.content =
        wire (requests.map Package.answer) ∧
      live.session.output.closed = true ∧
      ∀ before : Metrics,
        let after := countSignals before signals
        after.packagesDispatched = before.packagesDispatched + .ofNat requests.length ∧
          after.packagesSent = before.packagesSent + .ofNat requests.length ∧
          after.handlerFailures = before.handlerFailures ∧
          after.bytesSent =
            before.bytesSent + .ofNat (wire (requests.map Package.answer)).length := by
  have trace := Live.trace_of_play played
  have run := trace.session
  have calm := trace.calm plain
  have stream : Frame.scan plan.bodyLimit (sentIn driven) = (requests, .incomplete) := by
    rw [sent]
    exact Frame.scan_wire_of_fits fits
  obtain ⟨rfl, gone, taken, rounds, record⟩ := run.served opened calm (by rw [stream]) ended
  rw [stream] at taken
  have sound : ∀ fault, live.session.reader ≠ .ended (.failed fault) := by
    rw [(reader_of_end? (run.inward opened).coherent ended).1]
    exact nofun
  have echoing := trace.echoing opened plain sound fun package member => by
    rw [taken] at member
    exact ⟨fits package member, echoes package member⟩
  obtain ⟨⟨answered, stage, queued⟩, failed, missed, early⟩ := echoing
  -- the worker has stopped, so that no package is between its answer and its end
  have succeeded := (record.all_succeeded gone failed missed).trans taken
  have rests : ∀ package handler, live.session.worker ≠ .handling package handler := by
    intro package handler at_
    simp [workerGone, at_] at gone
  obtain ⟨-, rfl⟩ := stage.none_at_work rests
  rw [List.append_nil, succeeded] at queued
  obtain ⟨delivered, output, closed⟩ :=
    run.delivers opened calm (isFinished_of_end? ended) early
  rw [queued] at delivered output
  refine ⟨rfl, fun package member => (fits package member).ofBody_eq, output, closed, ?_⟩
  intro before
  refine ⟨?_, ?_, ?_, ?_⟩
  · rw [packagesDispatched_countSignals, succeeded]
  · rw [packagesSent_countSignals, delivered, List.length_map]
  · rw [handlerFailures_countSignals, failed]
    exact UInt64.add_zero _
  · rw [bytesSent_countSignals, delivered, Package.length_wire]

def echoPlan : Plan Handler where
  id := 1
  routes := { policy := .kindOnly, fallback := some { tag := "echo", actions := [.echo] } }
  missPolicy := .report
  bodyLimit := 4
  queueLimit := 1
  outboundLimit := 1
  readSize := 64
  grace := 10

def echoStart : Session Handler where
  plan := echoPlan
  decoder := .ofLimit 4
  input := { capacity := 8 }
  output := { capacity := 8 }

/-- The second package has the last kind. -/
def echoRequests : List Package :=
  [⟨⟨1, 7, 1⟩, [65]⟩, ⟨⟨0, 8, 255⟩, []⟩]

/-- The stream is cut inside the second frame, the reader waits for the worker, and the second
answer for the peer. -/
def echoMoves : List Live.Move :=
  let session : List Session.Move → List Live.Move := List.map .session
  session [.outer (.peerWrite [0, 1, 0, 7, 1, 65, 0]), .reader .check, .reader (.read 7),
      .reader .pull, .reader .pull, .worker .take, .worker .weigh, .reader .check,
      .outer (.peerWrite [0, 0, 8, 255]), .worker .start] ++
    [.job] ++
    session [.writer .pick, .reader (.read 4), .reader .pull, .reader .pull, .reader .check] ++
    [.job] ++
    session [.worker .take, .reader .resume, .outer .peerShut, .reader .meetEnd, .worker .weigh,
      .worker .start] ++
    [.job] ++
    session [.writer (.write 5), .writer (.write 1)] ++
    [.job] ++
    session [.worker .stop, .life .join, .writer .pick, .writer (.write 2), .outer (.peerRead 8),
      .writer (.write 3), .writer .stop, .life .close, .outer (.peerRead 3)]

theorem echo_end_to_end_through_tight_queues :
    ∃ (live : Live) (driven : List Move) (signals : List Signal),
      echoPlan.start 8 = .ok echoStart ∧
        ({ session := echoStart } : Live).play echoMoves = some (live, driven, signals) ∧
        sentIn driven = wire echoRequests ∧ live.session.end? = some .peerClosed ∧
        live.session.output.atEnd = true ∧
        echoStart.peerReads driven = [0, 1, 0, 7, 2, 65, 0, 0, 0, 8, 0] ∧
        wire (echoRequests.map Package.answer) = [0, 1, 0, 7, 2, 65, 0, 0, 0, 8, 0] ∧
        (countSignals {} signals).packagesDispatched = 2 ∧
        (countSignals {} signals).packagesSent = 2 ∧
        (countSignals {} signals).handlerFailures = 0 ∧
        (countSignals {} signals).bytesSent = 11 := by
  have opened : echoPlan.start 8 = .ok echoStart := rfl
  have fits : ∀ package ∈ echoRequests, package.Fits echoPlan.bodyLimit := by
    simp only [echoRequests, List.forall_mem_cons]
    exact ⟨⟨rfl, by decide⟩, ⟨rfl, by decide⟩, nofun⟩
  have echoes : ∀ package ∈ echoRequests, echoPlan.Echoes package :=
    fun package _ => ⟨_, rfl, rfl⟩
  obtain ⟨live, driven, signals, played, sent, ended, atEnd⟩ :
      ∃ (live : Live) (driven : List Move) (signals : List Signal),
        ({ session := echoStart } : Live).play echoMoves = some (live, driven, signals) ∧
        sentIn driven = wire echoRequests ∧ live.session.end? = some .peerClosed ∧
        live.session.output.atEnd = true := ⟨_, _, _, rfl, rfl, rfl, rfl⟩
  obtain ⟨-, -, output, -, counted⟩ :=
    echo_end_to_end opened played (by decide) fits echoes sent ended
  obtain ⟨dispatched, sentPackages, failed, sentBytes⟩ := counted {}
  simp only [Pipe.atEnd, Bool.and_eq_true, List.isEmpty_iff] at atEnd
  rw [atEnd.2, List.append_nil] at output
  refine ⟨live, driven, signals, opened, played, sent, ended, ?_, output, rfl, dispatched,
    sentPackages, failed, sentBytes⟩
  simp [Pipe.atEnd, atEnd]

end Session
end Courier
