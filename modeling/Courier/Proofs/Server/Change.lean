import Courier.Acceptor
import Courier.Proofs.Session.Trace

/-! The moves of a server one by one: what has to hold for each, and what it changes. Runs in which
time passes only while neither the server nor one of its sessions can go on. -/
namespace Courier

/-- Reading and closing are done by the session's task itself. -/
def Session.Move.isTask : Session.Move → Bool
  | .reader _ | .life _ => true
  | _ => false

namespace Acceptor

open Session (Plan countSignals)

variable {Handler : Type} {server next last : Acceptor Handler} {move : Move} {moves : List Move}
  {signals more : List Signal} {index : Nat} {session : Session Handler}

theorem mem_running_iff :
    index ∈ server.running ↔
      ∃ session, server.group.sessions[index]? = some session ∧ session.isFinished = false ∧
        index ∉ server.dead := by
  simp only [running, List.mem_filter, List.mem_range, hasEnded, Session.Group.isFinished]
  cases found : server.group.sessions[index]? with
  | none => simp [Nat.not_lt.mpr (List.getElem?_eq_none_iff.mp found)]
  | some session => simp [(List.getElem?_eq_some_iff.mp found).1]

theorem result?_eq_some_iff {result : Except Fault Unit} :
    server.result? = some result ↔ server.phase = .returned result := by
  unfold result?
  split
  · rename_i at_
    simp [at_]
  · rename_i other
    exact ⟨nofun, fun same => absurd same (other result)⟩

/-- A server changes by one of these. -/
inductive Change (server : Acceptor Handler) : Move → Acceptor Handler → List Signal → Prop where
  | refuse {pipe : Nat} (serving : server.phase = .serving)
      (full : server.limit ≤ server.watched.length) :
      Change server (.accept pipe)
        { server with group := server.group.count .connectionRefused } [.refused]
  | unplanned {pipe : Nat} {fault : Fault} (serving : server.phase = .serving)
      (room : server.watched.length < server.limit)
      (refused : Plan.ofSettings server.nextId server.routes server.settings = .error fault) :
      Change server (.accept pipe) { server with phase := .returned (.error fault) } []
  | crash {pipe : Nat} {plan : Plan Handler} {panic : Session.Panic}
      (serving : server.phase = .serving) (room : server.watched.length < server.limit)
      (planned : Plan.ofSettings server.nextId server.routes server.settings = .ok plan)
      (impossible : plan.start pipe = .error panic) :
      Change server (.accept pipe) { server with phase := .panicked } []
  | launch {pipe : Nat} {plan : Plan Handler} {session : Session Handler}
      (serving : server.phase = .serving) (room : server.watched.length < server.limit)
      (planned : Plan.ofSettings server.nextId server.routes server.settings = .ok plan)
      (opened : plan.start pipe = .ok session) :
      Change server (.accept pipe)
        { server with
          nextId := server.nextId + 1
          group := ⟨server.group.sessions ++ [session],
            countSignals server.group.metrics [.opened]⟩
          watched := server.watched ++ [server.group.sessions.length] }
        [.started server.nextId]
  | acceptFault (serving : server.phase = .serving) : Change server .acceptFault server []
  | session {index : Nat} {inner : Session.Move} {session after : Session Handler}
      {given : List Session.Signal} (at_ : server.group.sessions[index]? = some session)
      (taken : session.step inner = some (after, given))
      (still : ∀ millis, inner ≠ .outer (.pass millis))
      (alive : inner.isTask = true → index ∉ server.dead) :
      Change server (.session index inner)
        { server with
          group := ⟨server.group.sessions.set index after,
            countSignals server.group.metrics given⟩ } []
  | die {index : Nat} (going : index ∈ server.running) :
      Change server (.die index) { server with dead := index :: server.dead } []
  | reap {index : Nat} (watched : index ∈ server.watched) (ended : server.hasEnded index = true)
      (going : server.phase = .serving ∨ ∃ deadline, server.phase = .waiting deadline) :
      Change server (.reap index) { server with watched := server.watched.erase index } []
  | shutdown (serving : server.phase = .serving) :
      Change server .shutdown
        { server with
          group := server.group.cancel
          phase :=
            .waiting (server.now + server.settings.session.shutdownTimeout.toMillisUp) } []
  | allReaped {deadline : Nat} (waiting : server.phase = .waiting deadline)
      (none : server.watched = []) :
      Change server .allReaped { server with phase := .returned (.ok ()) } []
  | timeout {deadline : Nat} (waiting : server.phase = .waiting deadline)
      (late : deadline ≤ server.now) :
      Change server .timeout { server with watched := [], phase := .returned (.ok ()) } []
  | pass {millis : Nat} :
      Change server (.pass millis)
        { server with group := server.group.pass millis, now := server.now + millis } []

theorem change_of_accept {pipe : Nat} (serving : server.phase = .serving)
    (taken : server.accept pipe = (next, more)) : Change server (.accept pipe) next more := by
  unfold accept at taken
  split at taken
  · cases taken
    exact .refuse serving ‹_›
  have room : server.watched.length < server.limit := Nat.lt_of_not_le ‹_›
  unfold launch at taken
  cases planned : Plan.ofSettings server.nextId server.routes server.settings with
  | error fault =>
    simp only [planned] at taken
    cases taken
    exact .unplanned serving room planned
  | ok plan =>
    cases opened : plan.start pipe with
    | error panic =>
      simp only [planned, Session.Group.join, opened, bind, Except.bind] at taken
      cases taken
      exact .crash serving room planned opened
    | ok session =>
      simp only [planned, Session.Group.join, opened, bind, Except.bind, pure] at taken
      cases taken
      exact .launch serving room planned opened

/-- No session has a clock of its own, and none moves without being there. -/
theorem stepSession_of_step {group after : Session.Group Handler} {inner : Session.Move}
    (taken : group.step (.session index inner) = some after) :
    (∀ millis, inner ≠ .outer (.pass millis)) ∧
      ∃ session next given, group.sessions[index]? = some session ∧
        session.step inner = some (next, given) ∧
        after = ⟨group.sessions.set index next, countSignals group.metrics given⟩ := by
  have still : ∀ millis, inner ≠ .outer (.pass millis) := by
    rintro millis rfl
    cases taken
  have made : group.move? index inner = some after := by
    rw [← taken, Session.Group.step]
    exact fun millis => still millis
  refine ⟨still, ?_⟩
  cases at_ : group.sessions[index]? with
  | none => simp [Session.Group.move?, at_, bind] at made
  | some session =>
    cases stepped : session.step inner with
    | none => simp [Session.Group.move?, at_, stepped, bind] at made
    | some outcome =>
      obtain ⟨next, given⟩ := outcome
      simp only [Session.Group.move?, at_, stepped, bind, Option.bind, pure, Option.some.injEq]
        at made
      exact ⟨session, next, given, rfl, stepped, made.symm⟩

theorem moveSession_eq (server : Acceptor Handler) (index : Nat) (inner : Session.Move) :
    server.moveSession index inner =
      if inner.isTask && server.dead.contains index then none
      else (server.group.step (.session index inner)).map fun group =>
        ({ server with group }, []) := by
  cases inner <;> rfl

theorem change_of_moveSession {inner : Session.Move}
    (taken : server.moveSession index inner = some (next, more)) :
    Change server (.session index inner) next more := by
  rw [moveSession_eq] at taken
  split at taken
  · cases taken
  rename_i alive
  simp only [Option.map_eq_some_iff] at taken
  obtain ⟨group, moved, same⟩ := taken
  obtain ⟨still, session, after, given, at_, stepped, rfl⟩ := stepSession_of_step moved
  obtain ⟨rfl, rfl⟩ := Prod.mk.inj same
  exact .session at_ stepped still (by simpa using alive)

theorem change_of_reap (taken : server.reap index = some (next, more)) :
    Change server (.reap index) next more := by
  unfold reap at taken
  split at taken
  · rename_i possible
    split at taken
    · rename_i serving
      cases taken
      exact .reap possible.1 possible.2 (.inl serving)
    · rename_i waiting
      cases taken
      exact .reap possible.1 possible.2 (.inr ⟨_, waiting⟩)
    · cases taken
  · cases taken

theorem change_of_step (taken : server.step move = some (next, more)) :
    Change server move next more := by
  cases move with
  | accept pipe =>
    simp only [step] at taken
    split at taken
    · rename_i serving
      exact change_of_accept serving (Option.some.inj taken)
    · cases taken
  | acceptFault =>
    simp only [step] at taken
    split at taken
    · cases taken
      exact .acceptFault ‹_›
    · cases taken
  | session index inner => exact change_of_moveSession taken
  | die index =>
    simp only [step] at taken
    split at taken
    · rename_i possible
      cases taken
      refine .die ?_
      simpa [running] using possible
    · cases taken
  | reap index => exact change_of_reap taken
  | shutdown =>
    simp only [step] at taken
    split at taken
    · cases taken
      exact .shutdown ‹_›
    · cases taken
  | allReaped =>
    simp only [step] at taken
    split at taken
    · cases taken
      exact .allReaped ‹_› ‹_›
    · cases taken
  | timeout =>
    simp only [step] at taken
    split at taken
    · split at taken
      · cases taken
        exact .timeout ‹_› ‹_›
      · cases taken
    · cases taken
  | pass millis =>
    cases taken
    exact .pass

/-- A server that has returned, or whose task died, does nothing any more. -/
def Phase.isFinal : Phase → Bool
  | .returned _ | .panicked => true
  | .serving | .waiting _ => false

theorem Change.final (change : Change server move next more)
    (final : server.phase.isFinal = true) :
    next.phase = server.phase ∧
      next.group.sessions.length = server.group.sessions.length := by
  cases change with
  | refuse phase | unplanned phase | crash phase | launch phase | acceptFault phase
  | shutdown phase | allReaped phase | timeout phase =>
    rw [phase] at final
    cases final
  | reap _ _ going =>
    rcases going with phase | ⟨deadline, phase⟩ <;> (rw [phase] at final; cases final)
  | session => exact ⟨rfl, List.length_set⟩
  | die => exact ⟨rfl, rfl⟩
  | pass => exact ⟨rfl, List.length_map _⟩

/-! Runs that leave no time to waste. -/

/-- Moves that a server and its sessions make by themselves. Connections, the end of a session's
task in any other way than its own, the order to stop and the clock are not up to them. -/
def Move.isOwn : Move → Bool
  | .session _ inner => inner.isOwn
  | .reap _ | .allReaped | .timeout => true
  | .accept _ | .acceptFault | .die _ | .shutdown | .pass _ => false

def Quiet (server : Acceptor Handler) : Prop :=
  ∀ move : Move, move.isOwn → server.step move = none

/-- The runs in which time passes only while the server is quiet. -/
inductive PatientRun (start : Acceptor Handler) : Acceptor Handler → List Signal → Prop where
  | stay : PatientRun start start []
  | step {server next : Acceptor Handler} {signals more : List Signal} {move : Move} :
      PatientRun start server signals → (∀ millis, move = .pass millis → server.Quiet) →
      server.step move = some (next, more) → PatientRun start next (signals ++ more)

theorem PatientRun.run (patient : PatientRun server next signals) : Run server next signals := by
  induction patient with
  | stay => exact .stay
  | step _ _ taken ih => exact .step ih taken

theorem PatientRun.trans (first : PatientRun server next signals)
    (second : PatientRun next last more) : PatientRun server last (signals ++ more) := by
  induction second with
  | stay => simpa using first
  | step _ patient taken ih =>
    rw [← List.append_assoc]
    exact .step ih patient taken

def play (server : Acceptor Handler) : List Move → Option (Acceptor Handler × List Signal)
  | [] => some (server, [])
  | move :: rest =>
    match server.step move with
    | none => none
    | some (next, signals) => (next.play rest).map fun (last, more) => (last, signals ++ more)

theorem PatientRun.of_play (played : server.play moves = some (next, signals))
    (still : ∀ millis, .pass millis ∉ moves) : PatientRun server next signals := by
  induction moves generalizing server signals with
  | nil =>
    cases played
    exact .stay
  | cons move rest ih =>
    cases moved : server.step move with
    | none => simp [play, moved] at played
    | some outcome =>
      obtain ⟨second, before⟩ := outcome
      simp only [play, moved, Option.map_eq_some_iff] at played
      obtain ⟨⟨last, after⟩, remaining, same⟩ := played
      obtain ⟨rfl, rfl⟩ := Prod.mk.inj same
      have first : PatientRun server second ([] ++ before) := by
        refine .step .stay ?_ moved
        rintro millis rfl
        exact absurd (by simp) (still millis)
      exact first.trans (ih remaining fun millis member => still millis (by simp [member]))

/-- A quiet server has quiet sessions, unless one has lost its task. -/
theorem Quiet.quiet_session (quiet : server.Quiet)
    (at_ : server.group.sessions[index]? = some session) (alive : index ∉ server.dead) :
    session.Quiet := by
  intro inner own
  have stuck := quiet (.session index inner) own
  have still : ∀ millis, inner ≠ .outer (.pass millis) := by
    rintro millis rfl
    cases own
  rw [step, moveSession_eq] at stuck
  simp only [List.contains_iff_mem, alive, Bool.and_eq_true, and_false, if_false,
    Option.map_eq_none_iff] at stuck
  have made : server.group.move? index inner = none := by
    rw [← stuck, Session.Group.step]
    exact fun millis => still millis
  cases stepped : session.step inner with
  | none => rfl
  | some outcome => simp [Session.Group.move?, at_, stepped, bind, pure] at made

end Acceptor
end Courier
