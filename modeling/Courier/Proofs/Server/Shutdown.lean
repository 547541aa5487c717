import Courier.Proofs.Server.Stages

namespace Courier.Acceptor

open Session (Clogged)

variable {Handler : Type} {start server next later : Acceptor Handler} {move : Move}
  {signals more : List Signal} {settings : Settings} {routes : Route.Table Handler}
  {result : Except Fault Unit}

/-- What becomes of a server that has returned: nothing, and its sessions only end. -/
structure Left (server later : Acceptor Handler) : Prop where
  staffed : Staffed later
  phase : later.phase = server.phase
  sessions : later.group.sessions.length = server.group.sessions.length
  dismissed : Dismissed later
  running : ∀ index ∈ later.running, index ∈ server.running

theorem Left.step (left : Left server next) (returned : server.phase = .returned result)
    (change : Change next move later more) : Left server later := by
  have phase := left.phase.trans returned
  have final := change.final (by rw [phase]; rfl)
  have stopped : next.phase ≠ .serving := by
    rw [phase]
    exact nofun
  refine ⟨left.staffed.change change, final.1.trans left.phase, final.2.trans left.sessions,
    left.dismissed.step left.staffed change stopped, fun index going => ?_⟩
  exact left.running index (left.staffed.none_starts change stopped going)

theorem left_of_run (staffed : Staffed server) (returned : server.phase = .returned result)
    (dismissed : Dismissed server) (run : Run server later signals) : Left server later := by
  induction run with
  | stay => exact ⟨staffed, rfl, rfl, dismissed, fun _ going => going⟩
  | step _ taken ih => exact ih.step returned (change_of_step taken)

/-- A server that has returned has done so without a fault, after it told all its sessions to close,
and it has waited for them until none went on or for as long as a session waits for its handler. It
starts no session any more. A session whose task has ended makes no move of it any more, and unless
the task died no byte is written either. But a session can outlast the server: when no time was lost
and everything rests, those that go on wait for a peer who takes nothing more. -/
theorem return_leaves_only_clogged_sessions (used : serve settings routes = .ok start)
    (reached : Run start server signals) (returned : server.result? = some result) :
    result = .ok () ∧
      (∃ (told : Acceptor Handler) (before after : List Signal),
        Run start told before ∧ Run told server after ∧
          told.phase = .waiting (told.now + settings.session.shutdownTimeout.toMillisUp) ∧
          (server.running = [] ∨
            told.now + settings.session.shutdownTimeout.toMillisUp ≤ server.now)) ∧
      (∀ (later : Acceptor Handler) (more : List Signal), Run server later more →
        later.result? = some result ∧
          later.group.sessions.length = server.group.sessions.length ∧
          (∀ session ∈ later.group.sessions, session.cancelled = true) ∧
          (∀ index ∈ later.running, index ∈ server.running) ∧
          ∀ index, index ∉ later.running →
            (∀ inner : Session.Move, inner.isTask = true →
              later.step (.session index inner) = none) ∧
            (index ∉ later.dead → ∀ inner, later.step (.session index (.writer inner)) = none)) ∧
      (PatientRun start server signals → server.Quiet →
        ∀ index ∈ server.running, ∃ session : Session Handler,
          server.group.sessions[index]? = some session ∧ Clogged session) := by
  rw [result?_eq_some_iff] at returned
  obtain ⟨first, rfl⟩ := managed_serve used
  have managed := (first False).run reached
  obtain ⟨told, before, after, opening, ending, closing, same, sound, settled⟩ :=
    managed.closing returned
  have ordered := closing.ordered
  simp only [patience, same] at ordered settled
  refine ⟨sound, ⟨told, before, after, opening, ending, ordered, settled⟩, ?_, ?_⟩
  · intro later more run
    have left := left_of_run managed.staffed returned closing.dismissed run
    refine ⟨?_, left.sessions, ?_, left.running, fun index => left.staffed.over⟩
    · rw [result?_eq_some_iff, left.phase, returned]
    · intro session member
      obtain ⟨index, found⟩ := List.mem_iff_getElem?.mp member
      exact left.dismissed index session found
  · intro patient quiet index going
    obtain ⟨told, -, -, -, -, closing, same, -, settled⟩ :=
      ((first True).patientRun patient).closing returned
    obtain ⟨session, found, unfinished, alive⟩ := mem_running_iff.mp going
    rcases settled with none | late
    · rw [none] at going
      cases going
    · have told := closing.told trivial index session found alive
      rw [patience] at late
      exact ⟨session, found, told.clogged late (quiet.quiet_session found alive) unfinished⟩

/-- The server rests when its sessions do and it has none to take note of. -/
theorem quiet_of_sessions (resting : ∀ session ∈ server.group.sessions, session.Quiet)
    (unreaped : ∀ index, server.reap index = none) (unsettled : server.step .allReaped = none)
    (early : server.step .timeout = none) : server.Quiet := by
  intro move own
  cases move with
  | session index inner =>
    refine step_session_eq_none fun session found => ?_
    exact resting session (List.mem_iff_getElem?.mpr ⟨index, found⟩) inner own
  | reap index => exact unreaped index
  | allReaped => exact unsettled
  | timeout => exact early
  | accept | acceptFault | die | shutdown | pass => cases own

/-- Two connections come in. A frame for the first one does not fit its transport when the server is
told to stop; the second one has nothing to do, and ends. -/
def stoppingMoves : List Move :=
  [.accept 4, .accept 64, .session 0 (.outer (.send ⟨⟨0, 7, 1⟩, []⟩)),
    .session 0 (.writer .pick), .session 0 (.writer (.write 4)), .session 0 (.reader .check),
    .session 1 (.reader .check), .shutdown, .session 0 (.reader .leave),
    .session 0 (.worker .stop), .session 0 (.life .join), .session 1 (.reader .leave),
    .session 1 (.writer .stop), .session 1 (.worker .stop), .session 1 (.life .join),
    .session 1 (.life .close), .reap 1]

def idleSession (now : Nat) : Session Unit :=
  { plan := { Session.narrowPlan with id := 2 }
    decoder := .ofLimit 4
    input := { capacity := 64, closed := true }
    output := { capacity := 64, closed := true }
    reader := .ended .localClose
    worker := .stopped
    writer := .stopped
    life := .finished .localClose
    cancelled := true
    now }

def stoppedServer (metrics : Metrics) (watched : List Nat) (phase : Phase) (now : Nat) :
    Acceptor Unit where
  settings := Session.narrowSettings
  routes := Session.narrowPlan.routes
  nextId := 3
  group := ⟨[Session.unreadSession now, idleSession now], metrics⟩
  watched
  phase
  now

theorem quiet_idle (now : Nat) : (idleSession now).Quiet := by
  intro move own
  cases move with
  | outer => cases own
  | reader move | writer move | life move => cases move <;> rfl
  | worker move =>
    cases move with
    | finish => cases own
    | _ => rfl

theorem quiet_stopped {metrics : Metrics} {watched : List Nat} {phase : Phase} {now : Nat}
    (unreaped : ∀ index, (stoppedServer metrics watched phase now).reap index = none)
    (unsettled : (stoppedServer metrics watched phase now).step .allReaped = none)
    (early : (stoppedServer metrics watched phase now).step .timeout = none) :
    (stoppedServer metrics watched phase now).Quiet := by
  refine quiet_of_sessions ?_ unreaped unsettled early
  intro session member
  simp only [stoppedServer, List.mem_cons, List.not_mem_nil, or_false] at member
  rcases member with rfl | rfl
  · exact Session.quiet_unread now
  · exact quiet_idle now

theorem stopped_of_serve :
    ∃ (start : Acceptor Unit) (metrics : Metrics) (signals : List Signal),
      serve Session.narrowSettings Session.narrowPlan.routes = .ok start ∧
        PatientRun start (stoppedServer metrics [] (.returned (.ok ())) 10) signals ∧
        metrics.packagesSent = 0 ∧ metrics.sessionsActive = 1 := by
  obtain ⟨start, used, metrics, signals, played, unsent, active⟩ :
      ∃ start : Acceptor Unit,
        serve Session.narrowSettings Session.narrowPlan.routes = .ok start ∧
          ∃ (metrics : Metrics) (signals : List Signal),
            start.play stoppingMoves = some (stoppedServer metrics [0] (.waiting 10) 0, signals) ∧
              metrics.packagesSent = 0 ∧ metrics.sessionsActive = 1 :=
    ⟨_, rfl, _, _, rfl, rfl, rfl⟩
  have rests : PatientRun start (stoppedServer metrics [0] (.waiting 10) 0) signals :=
    .of_play played (by simp [stoppingMoves])
  have waiting : (stoppedServer metrics [0] (.waiting 10) 0).Quiet := by
    refine quiet_stopped (fun index => ?_) rfl rfl
    cases index <;> rfl
  have passed : (stoppedServer metrics [0] (.waiting 10) 0).step (.pass 10) =
      some (stoppedServer metrics [0] (.waiting 10) 10, []) := rfl
  have timedOut : (stoppedServer metrics [0] (.waiting 10) 10).step .timeout =
      some (stoppedServer metrics [] (.returned (.ok ())) 10, []) := rfl
  have late := rests.step (fun _ _ => waiting) passed
  have past := late.step (fun _ same => by cases same) timedOut
  exact ⟨start, metrics, _, used, past, unsent, active⟩

theorem return_leaves_only_clogged_session_of_two :
    ∃ (start : Acceptor Unit) (metrics : Metrics) (signals : List Signal)
        (session : Session Unit),
      serve Session.narrowSettings Session.narrowPlan.routes = .ok start ∧
        Run start (stoppedServer metrics [] (.returned (.ok ())) 10) signals ∧
        (stoppedServer metrics [] (.returned (.ok ())) 10).result? = some (.ok ()) ∧
        (stoppedServer metrics [] (.returned (.ok ())) 10).Quiet ∧
        (stoppedServer metrics [] (.returned (.ok ())) 10).running = [0] ∧
        (stoppedServer metrics [] (.returned (.ok ())) 10).group.sessions[0]? = some session ∧
        Clogged session := by
  obtain ⟨start, metrics, signals, used, reached, -⟩ := stopped_of_serve
  have quiet : (stoppedServer metrics [] (.returned (.ok ())) 10).Quiet :=
    quiet_stopped (fun _ => rfl) rfl rfl
  have left := return_leaves_only_clogged_sessions used reached.run rfl
  obtain ⟨-, -, -, clogged⟩ := left
  have going : (stoppedServer metrics [] (.returned (.ok ())) 10).running = [0] := rfl
  obtain ⟨session, found, stays⟩ := clogged reached quiet 0 (by simp [going])
  exact ⟨start, metrics, signals, session, used, reached.run, rfl, quiet, going, found, stays⟩

/-- A session outlives its server: when its peer reads again, after the server has returned, the
session writes, counts what it has sent into the metrics of the server, and ends by itself. -/
theorem session_outlives_server :
    ∃ (start server later : Acceptor Unit) (before after : List Signal),
      serve Session.narrowSettings Session.narrowPlan.routes = .ok start ∧
        PatientRun start server before ∧ server.result? = some (.ok ()) ∧ server.Quiet ∧
        server.running = [0] ∧
        server.group.metrics.packagesSent = 0 ∧ server.group.metrics.sessionsActive = 1 ∧
        PatientRun server later after ∧ later.running = [] ∧
        later.group.metrics.packagesSent = 1 ∧ later.group.metrics.sessionsActive = 0 := by
  obtain ⟨start, metrics, signals, used, reached, unsent, active⟩ := stopped_of_serve
  have quiet : (stoppedServer metrics [] (.returned (.ok ())) 10).Quiet :=
    quiet_stopped (fun _ => rfl) rfl rfl
  obtain ⟨later, after, played, ended, sent, gone⟩ :
      ∃ (later : Acceptor Unit) (after : List Signal),
        (stoppedServer metrics [] (.returned (.ok ())) 10).play
            [.session 0 (.outer (.peerRead 4)), .session 0 (.writer (.write 1)),
              .session 0 (.writer .stop), .session 0 (.life .close)] = some (later, after) ∧
          later.running = [] ∧
          later.group.metrics.packagesSent = metrics.packagesSent + 1 ∧
          later.group.metrics.sessionsActive = metrics.sessionsActive - 1 :=
    ⟨_, _, rfl, rfl, rfl, rfl⟩
  refine ⟨start, _, later, signals, after, used, reached, rfl, quiet, rfl, unsent, active,
    .of_play played (by simp), ended, ?_, ?_⟩
  · rw [sent, unsent]
    rfl
  · rw [gone, active]
    rfl

end Courier.Acceptor
