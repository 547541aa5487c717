import Courier.Proofs.Limits
import Courier.Proofs.Server.Change
import Courier.Proofs.Session.Flush
import Courier.Proofs.Session.Teardown

/-! What the sessions of a server are, seen one by one: each was started under the server's settings
and has made moves of its own since, and no time was lost on those whose task goes on. -/
namespace Courier

namespace Session

variable {Handler : Type} {start session next : Session Handler} {move : Move}
  {signals more : List Signal} {plan : Plan Handler} {pipe : Nat}

theorem Coherent.stays_finished (coherent : Coherent session)
    (change : Change session move next more) (ended : session.isFinished = true) :
    next.isFinished = true := by
  obtain ⟨how, life⟩ := life_of_isFinished ended
  have left := coherent.life
  simp only [LifeFits, life] at left
  obtain ⟨reader, -⟩ := left
  cases change with
  | meetEnd at_ | meetFault at_ | reject at_ | fault at_ | abandon _ at_ =>
    rw [reader] at at_
    cases at_
  | leave _ at_ => rcases at_ with at_ | at_ <;> (rw [reader] at at_; cases at_)
  | join _ at_ | joinLate _ at_ | hurry at_ | giveUp _ at_ | close at_ =>
    rw [life] at at_
    cases at_
  | aside _ same => simp [isFinished, same.life, life]
  | _ => exact ended

theorem step_pass (session : Session Handler) (millis : Nat) :
    session.step (.outer (.pass millis)) =
      some ({ session with now := session.now + millis }, []) := rfl

theorem step_cancel (session : Session Handler) :
    session.step (.outer .cancel) = some ({ session with cancelled := true }, [.told]) := rfl

/-- The parts of a session end in order, and it finishes with its writer stopped. -/
structure Sound (session : Session Handler) : Prop where
  coherent : Coherent session
  closed : session.isFinished = true → session.isClosed = true

theorem sound_start (opened : plan.start pipe = .ok start) : Sound start := by
  have coherent := coherent_start opened
  obtain ⟨-, rfl⟩ := start_eq_ok_iff.mp opened
  exact ⟨coherent, nofun⟩

theorem Sound.step (sound : Sound session) (taken : session.step move = some (next, more)) :
    Sound next := by
  have change := sound.coherent.changed taken
  have egress := sound.coherent.egress taken
  refine ⟨sound.coherent.change change, fun ended => ?_⟩
  rcases change.finished ended with already | closed
  · exact egress.stays_closed (sound.closed already)
  · exact egress.stays_closed closed

/-- A finished session has no task to go on with. -/
theorem Sound.task_over (sound : Sound session) (ended : session.isFinished = true)
    (task : move.isTask = true) : session.step move = none := by
  have fits := sound.coherent.life
  obtain ⟨how, life⟩ := life_of_isFinished ended
  simp only [LifeFits, life] at fits
  cases move with
  | reader inner => exact stepReader_of_ended (by simp [hasStoppedReading, fits.1]) inner
  | life inner =>
    cases inner with
    | giveUp => cases work : session.worker <;> simp [Session.step, stepLife, life, work]
    | join | hurry | close => simp [Session.step, stepLife, life]
  | worker | writer | outer => cases task

theorem Sound.writer_over (sound : Sound session) (ended : session.isFinished = true)
    (inner : WriterMove) : session.step (.writer inner) = none := by
  have closed := sound.closed ended
  cases at_ : session.writer with
  | stopped => cases inner <;> simp [Session.step, stepWriter, at_]
  | idle | writing | retiring => simp [isClosed, at_] at closed

/-- The session was started under these settings, and no time has been lost on it. -/
inductive Raised (settings : Settings) (routes : Route.Table Handler)
    (session : Session Handler) : Prop where
  | intro {id : UInt64} {plan : Plan Handler} {pipe : Nat} {start : Session Handler}
      {signals : List Signal} (planned : Plan.ofSettings id routes settings = .ok plan)
      (opened : plan.start pipe = .ok start) (run : PatientRun start session signals)

/-- The session had been told to close at the moment `since` of a clock that now shows `clock`. -/
inductive Told (settings : Settings) (routes : Route.Table Handler) (since clock : Nat)
    (session : Session Handler) : Prop where
  | intro {earlier : Session Handler} {signals : List Signal}
      (raised : Raised settings routes earlier) (cancelled : earlier.cancelled = true)
      (run : PatientRun earlier session signals)
      (elapsed : session.now + since = earlier.now + clock)

variable {settings : Settings} {routes : Route.Table Handler} {since clock millis : Nat}

theorem Raised.step (raised : Raised settings routes session)
    (patient : ∀ millis, move = .outer (.pass millis) → session.Quiet)
    (taken : session.step move = some (next, more)) : Raised settings routes next := by
  obtain ⟨planned, opened, run⟩ := raised
  exact ⟨planned, opened, run.step patient taken⟩

theorem Raised.coherent (raised : Raised settings routes session) : Coherent session := by
  obtain ⟨-, opened, run⟩ := raised
  exact (coherent_start opened).run run.run

theorem Told.coherent (told : Told settings routes since clock session) : Coherent session := by
  obtain ⟨raised, -, run, -⟩ := told
  exact raised.coherent.run run.run

theorem Told.step (told : Told settings routes since clock session)
    (still : ∀ millis, move ≠ .outer (.pass millis))
    (taken : session.step move = some (next, more)) : Told settings routes since clock next := by
  have now := told.coherent.now_eq taken still
  obtain ⟨raised, cancelled, run, elapsed⟩ := told
  refine ⟨raised, cancelled, run.step (fun millis same => absurd same (still millis)) taken, ?_⟩
  rw [now]
  exact elapsed

theorem Told.wait (told : Told settings routes since clock session) (quiet : session.Quiet) :
    Told settings routes since (clock + millis) { session with now := session.now + millis } := by
  obtain ⟨raised, cancelled, run, elapsed⟩ := told
  refine ⟨raised, cancelled, run.step (fun _ _ => quiet) (step_pass session millis), ?_⟩
  show session.now + millis + since = _
  omega

/-- A session that was told to close a grace period ago and rests either has finished or waits for
its peer. -/
theorem Told.clogged (told : Told settings routes since clock session)
    (overdue : since + settings.session.shutdownTimeout.toMillisUp ≤ clock)
    (quiet : session.Quiet) (going : session.isFinished = false) : Clogged session := by
  obtain ⟨⟨planned, opened, reached⟩, cancelled, later, elapsed⟩ := told
  obtain ⟨-, rfl⟩ := Plan.ofSettings_eq_ok_iff.mp planned
  refine (overdue_close_awaits_peer opened reached cancelled later ?_ quiet).mp going
  show _ + settings.session.shutdownTimeout.toMillisUp ≤ _
  omega

end Session

namespace Acceptor

open Session (Plan Sound Raised sound_start)

variable {Handler : Type} {server next : Acceptor Handler} {move : Move} {more : List Signal}
  {index : Nat} {session : Session Handler}

/-- What the session at a place is after a move of the server: one that has just been started, or
what became of the session that was there. -/
inductive Passage (server : Acceptor Handler) (move : Move) (next : Acceptor Handler)
    (index : Nat) : Session Handler → Prop where
  | fresh {pipe : Nat} {plan : Plan Handler} {session : Session Handler}
      (serving : server.phase = .serving)
      (planned : Plan.ofSettings server.nextId server.routes server.settings = .ok plan)
      (opened : plan.start pipe = .ok session) (watched : index ∈ next.watched) :
      Passage server move next index session
  | still {session : Session Handler} (at_ : server.group.sessions[index]? = some session)
      (clock : next.now = server.now) : Passage server move next index session
  | moved {earlier session : Session Handler} {inner : Session.Move}
      {given : List Session.Signal} (at_ : server.group.sessions[index]? = some earlier)
      (taken : earlier.step inner = some (session, given))
      (timeless : ∀ millis, inner ≠ .outer (.pass millis)) (clock : next.now = server.now) :
      Passage server move next index session
  | waited {earlier : Session Handler} {millis : Nat}
      (at_ : server.group.sessions[index]? = some earlier) (passes : move = .pass millis)
      (clock : next.now = server.now + millis) :
      Passage server move next index { earlier with now := earlier.now + millis }

theorem Change.passage (change : Change server move next more)
    (at_ : next.group.sessions[index]? = some session) :
    Passage server move next index session := by
  cases change with
  | launch serving _ planned opened =>
    rw [List.getElem?_append] at at_
    split at at_
    · exact .still at_ rfl
    · rename_i beyond
      have last := (List.getElem?_eq_some_iff.mp at_).1
      simp only [List.length_singleton] at last
      obtain rfl : index = server.group.sessions.length := by omega
      simp only [Nat.sub_self, List.getElem?_cons_zero, Option.some.injEq] at at_
      subst at_
      exact .fresh serving planned opened (by simp)
  | @session place _ _ _ _ found taken still =>
    rw [List.getElem?_set] at at_
    split at at_
    · rename_i same
      subst same
      split at at_
      · cases at_
        exact .moved found taken still rfl
      · cases at_
    · exact .still at_ rfl
  | shutdown =>
    simp only [Session.Group.cancel, List.getElem?_map, Option.map_eq_some_iff] at at_
    obtain ⟨earlier, found, rfl⟩ := at_
    exact .moved found (Session.step_cancel earlier) nofun rfl
  | pass =>
    simp only [Session.Group.pass, List.getElem?_map, Option.map_eq_some_iff] at at_
    obtain ⟨earlier, found, rfl⟩ := at_
    exact .waited found rfl rfl
  | _ => exact .still at_ rfl

theorem Change.dead (change : Change server move next more) (alive : index ∉ next.dead) :
    index ∉ server.dead := by
  cases change with
  | die => exact fun dead => alive (List.mem_cons_of_mem _ dead)
  | _ => exact alive

theorem Change.plans (change : Change server move next more) :
    next.settings = server.settings ∧ next.routes = server.routes := by
  cases change <;> exact ⟨rfl, rfl⟩

def Staffed (server : Acceptor Handler) : Prop :=
  ∀ (index : Nat) (session : Session Handler),
    server.group.sessions[index]? = some session → Sound session

theorem Staffed.change (staffed : Staffed server) (change : Change server move next more) :
    Staffed next := by
  intro index session found
  cases change.passage found with
  | fresh _ _ opened => exact sound_start opened
  | still at_ => exact staffed _ _ at_
  | moved at_ taken => exact (staffed _ _ at_).step taken
  | @waited earlier millis at_ => exact (staffed _ _ at_).step (Session.step_pass earlier millis)

def Dismissed (server : Acceptor Handler) : Prop :=
  ∀ (index : Nat) (session : Session Handler),
    server.group.sessions[index]? = some session → session.cancelled = true

theorem Dismissed.step (dismissed : Dismissed server) (staffed : Staffed server)
    (change : Change server move next more) (stopped : server.phase ≠ .serving) :
    Dismissed next := by
  intro index session found
  cases change.passage found with
  | fresh serving => exact absurd serving stopped
  | still at_ => exact dismissed _ _ at_
  | moved at_ taken =>
    exact ((staffed _ _ at_).coherent.changed taken).stays_cancelled (dismissed _ _ at_)
  | @waited earlier _ at_ => exact dismissed index earlier at_

/-- A session that goes on has gone on before, or it has just been started and is watched. -/
theorem Staffed.going (staffed : Staffed server) (change : Change server move next more)
    (going : index ∈ next.running) :
    index ∈ server.running ∨ server.phase = .serving ∧ index ∈ next.watched := by
  obtain ⟨session, found, unfinished, alive⟩ := mem_running_iff.mp going
  have living := change.dead alive
  cases change.passage found with
  | fresh serving _ _ watched => exact .inr ⟨serving, watched⟩
  | still at_ => exact .inl (mem_running_iff.mpr ⟨_, at_, unfinished, living⟩)
  | @moved earlier _ _ _ at_ taken =>
    have coherent := (staffed _ _ at_).coherent
    have before : earlier.isFinished = false := by
      refine Bool.eq_false_iff.mpr fun ended => ?_
      rw [coherent.stays_finished (coherent.changed taken) ended] at unfinished
      cases unfinished
    exact .inl (mem_running_iff.mpr ⟨_, at_, before, living⟩)
  | waited at_ => exact .inl (mem_running_iff.mpr ⟨_, at_, unfinished, living⟩)

theorem step_session_eq_none {inner : Session.Move}
    (stuck : ∀ session : Session Handler,
      server.group.sessions[index]? = some session → session.step inner = none) :
    server.step (.session index inner) = none := by
  cases taken : server.step (.session index inner) with
  | none => rfl
  | some outcome =>
    obtain ⟨next, more⟩ := outcome
    cases change_of_step taken with
    | session at_ stepped =>
      rw [stuck _ at_] at stepped
      cases stepped

/-- Once a server does not serve any more, no session starts. -/
theorem Staffed.none_starts (staffed : Staffed server) (change : Change server move next more)
    (stopped : server.phase ≠ .serving) (going : index ∈ next.running) :
    index ∈ server.running := by
  rcases staffed.going change going with before | ⟨serving, -⟩
  · exact before
  · exact absurd serving stopped

/-- The task of a session that does not go on makes no move, and unless it has died no byte is
written either. -/
theorem Staffed.over (staffed : Staffed server) (ended : index ∉ server.running) :
    (∀ inner : Session.Move, inner.isTask = true → server.step (.session index inner) = none) ∧
      (index ∉ server.dead → ∀ inner, server.step (.session index (.writer inner)) = none) := by
  have finished : index ∉ server.dead → ∀ session,
      server.group.sessions[index]? = some session → session.isFinished = true := by
    intro alive session at_
    refine Decidable.byContradiction fun unfinished => ended ?_
    exact mem_running_iff.mpr ⟨session, at_, by simpa using unfinished, alive⟩
  constructor
  · intro inner task
    by_cases dead : index ∈ server.dead
    · rw [step, moveSession_eq]
      simp [task, dead]
    · exact step_session_eq_none fun session at_ =>
        (staffed _ _ at_).task_over (finished dead session at_) task
  · intro alive inner
    exact step_session_eq_none fun session at_ =>
      (staffed _ _ at_).writer_over (finished alive session at_) inner

/-- No time has been lost on sessions whose task goes on. -/
def Tended (settings : Settings) (routes : Route.Table Handler) (server : Acceptor Handler) :
    Prop :=
  ∀ (index : Nat) (session : Session Handler),
    server.group.sessions[index]? = some session → index ∉ server.dead →
      Raised settings routes session

theorem Tended.step (tended : Tended server.settings server.routes server)
    (patient : ∀ millis, move = .pass millis → server.Quiet)
    (change : Change server move next more) : Tended next.settings next.routes next := by
  obtain ⟨settings, routes⟩ := change.plans
  rw [settings, routes]
  intro index session found alive
  have living := change.dead alive
  cases change.passage found with
  | fresh _ planned opened => exact ⟨planned, opened, .stay⟩
  | still at_ => exact tended _ _ at_ living
  | moved at_ taken timeless =>
    exact (tended _ _ at_ living).step (fun millis same => absurd same (timeless millis)) taken
  | @waited earlier millis at_ passes =>
    have quiet := (patient millis passes).quiet_session at_ living
    exact (tended _ _ at_ living).step (fun _ _ => quiet) (Session.step_pass earlier millis)

end Acceptor
end Courier
