import Courier.Proofs.Server.Stages
import Courier.Proofs.Session.Order
import Courier.Proofs.Session.Tally
import Mathlib.Data.List.Perm.Subperm

namespace Courier

namespace Session

/-- No session counts a refused connection. -/
theorem connectionsRefused_countSignals (before : Metrics) (signals : List Signal) :
    (countSignals before signals).connectionsRefused = before.connectionsRefused := by
  have weighs : ∀ signal : Signal, Metrics.Counter.connectionsRefused.total signal.events =
      .ofNat ([] : List Unit).length := by
    intro signal
    cases signal with
    | completed package verdict => rcases verdict with (fault | ⟨⟩) | _ <;> rfl
    | closed how => cases how <;> rfl
    | _ => rfl
  have read := Metrics.Counter.connectionsRefused.read_countSignals weighs before signals
  have none : (signals.flatMap fun _ => ([] : List Unit)) = [] := by simp
  rw [none] at read
  exact read.trans (UInt64.add_zero _)

end Session

namespace Acceptor

open Session (Plan countSignals largestQueue)

variable {Handler : Type} {start server next : Acceptor Handler} {move : Move}
  {moves rest : List Move} {signals more : List Signal} {settings : Settings}
  {routes : Route.Table Handler}

def Move.isAccept : Move → Bool
  | .accept _ => true
  | _ => false

def Move.isReap : Move → Bool
  | .reap _ => true
  | _ => false

def Signal.started? : Signal → Option UInt64
  | .started id => some id
  | .refused => none

def startedIn (signals : List Signal) : List UInt64 :=
  signals.filterMap Signal.started?

/-- The first numbers that a server gives out. -/
def firstIds (count : Nat) : List UInt64 :=
  (List.range count).map fun index => .ofNat (index + 1)

theorem firstIds_succ (count : Nat) :
    firstIds (count + 1) = firstIds count ++ [.ofNat (count + 1)] := by
  simp [firstIds, List.range_succ]

@[simp] theorem length_firstIds (count : Nat) : (firstIds count).length = count := by
  simp [firstIds]

@[simp] theorem startedIn_append (first second : List Signal) :
    startedIn (first ++ second) = startedIn first ++ startedIn second :=
  List.filterMap_append

def ids (server : Acceptor Handler) : List UInt64 :=
  server.group.sessions.map (·.plan.id)

/-- A server that serves has not been told to stop. It watches the sessions of whose end it has not
taken note, and never more than the limit allows. -/
structure Serving (moves : List Move) (server : Acceptor Handler) : Prop where
  untold : .shutdown ∉ moves
  watches : server.watched.length + moves.countP Move.isReap = server.group.sessions.length
  within : server.watched.length ≤ server.limit

/-- A server that does not serve any more was told to stop. It waits no longer than a grace period,
and returns without a fault. -/
structure Stopped (moves : List Move) (server : Acceptor Handler) : Prop where
  told : .shutdown ∈ moves
  ends : (∃ deadline, server.phase = .waiting deadline ∧ deadline ≤ server.now + server.patience) ∨
    server.phase = .returned (.ok ())

/-- The accounts of a server: every connection was answered, with a session or a refusal, sessions
are numbered from one, and the refusals are counted. -/
structure Ledger (start : Acceptor Handler) (moves : List Move) (signals : List Signal)
    (server : Acceptor Handler) : Prop where
  reached : Run start server signals
  managed : Managed False start server
  started : startedIn signals = firstIds server.group.sessions.length
  numbered : server.ids = firstIds server.group.sessions.length
  upcoming : server.nextId = .ofNat (server.group.sessions.length + 1)
  answered : moves.countP Move.isAccept = server.group.sessions.length + signals.count .refused
  refused : server.group.metrics.connectionsRefused = .ofNat (signals.count .refused)
  serving : server.phase = .serving → Serving moves server
  stopped : server.phase ≠ .serving → Stopped moves server

theorem ids_set {group : Session.Group Handler} {index : Nat} {session after : Session Handler}
    (at_ : group.sessions[index]? = some session) (same : after.plan = session.plan) :
    (group.sessions.set index after).map (·.plan.id) = group.sessions.map (·.plan.id) := by
  refine List.ext_getElem? fun place => ?_
  simp only [List.getElem?_map, List.getElem?_set]
  by_cases here : index = place
  · subst here
    obtain ⟨inside, rfl⟩ := List.getElem?_eq_some_iff.mp at_
    simp [inside, same]
  · simp [here]

/-- Neither the sessions nor the accounts of connections change. -/
structure Untouched (server next : Acceptor Handler) : Prop where
  count : next.group.sessions.length = server.group.sessions.length
  ids : next.ids = server.ids
  upcoming : next.nextId = server.nextId
  refused : next.group.metrics.connectionsRefused = server.group.metrics.connectionsRefused

/-- Moves by which no connection is answered leave the accounts alone. -/
theorem Change.untouched (change : Change server move next more) (staffed : Staffed server)
    (other : move.isAccept = false) : Untouched server next ∧ more = [] := by
  cases change with
  | refuse | unplanned | crash | launch => cases other
  | @session index _ session after given at_ taken =>
    have coherent := (staffed _ _ at_).coherent
    have same : after.plan = session.plan := (coherent.changed taken).plan_eq
    have counted := Session.connectionsRefused_countSignals server.group.metrics given
    exact ⟨⟨List.length_set, ids_set at_ same, rfl, counted⟩, rfl⟩
  | shutdown => exact ⟨⟨List.length_map _, by simp [ids, Session.Group.cancel], rfl, rfl⟩, rfl⟩
  | pass => exact ⟨⟨List.length_map _, by simp [ids, Session.Group.pass], rfl, rfl⟩, rfl⟩
  | acceptFault | die | reap | allReaped | timeout => exact ⟨⟨rfl, rfl, rfl, rfl⟩, rfl⟩

theorem ledger_serve (used : serve settings routes = .ok start) :
    Ledger start [] [] start ∧ start.settings = settings := by
  obtain ⟨managed, same⟩ := managed_serve used
  cases checked : settings.check with
  | error fault => simp [serve, checked, bind, Except.bind] at used
  | ok =>
    simp only [serve, checked, bind, Except.bind, pure, Except.pure, Except.ok.injEq] at used
    subst used
    exact ⟨⟨.stay, managed False, rfl, rfl, rfl, rfl, rfl,
      fun _ => ⟨List.not_mem_nil, rfl, Nat.zero_le _⟩, fun stopped => absurd rfl stopped⟩, rfl⟩

theorem Serving.step (serving : Serving moves server)
    (change : Change server move next more) (going : next.phase = .serving) :
    Serving (moves ++ [move]) next := by
  obtain ⟨untold, watches, within⟩ := serving
  cases change with
  | refuse | acceptFault | die | session | pass =>
    refine ⟨by simpa using untold, ?_, within⟩
    simpa [Move.isReap, Session.Group.count, Session.Group.pass] using watches
  | launch _ room =>
    refine ⟨by simpa using untold, ?_, ?_⟩
    · simp only [List.countP_append, List.countP_singleton, Move.isReap, Bool.false_eq_true,
        if_false, List.length_append, List.length_singleton]
      omega
    · show (server.watched ++ [server.group.sessions.length]).length ≤ server.limit
      rw [List.length_append]
      exact room
  | @reap index watched =>
    have some := List.length_pos_of_mem watched
    refine ⟨by simpa using untold, ?_, ?_⟩
    · simp only [List.countP_append, List.countP_singleton, Move.isReap, if_true,
        List.length_erase_of_mem watched]
      omega
    · exact Nat.le_trans List.length_erase_le within
  | unplanned | crash | shutdown | allReaped | timeout => cases going

theorem Stopped.step (stopped : Stopped moves server) (change : Change server move next more) :
    Stopped (moves ++ [move]) next := by
  obtain ⟨told, ends⟩ := stopped
  have later := change.now_le
  have patience : next.patience = server.patience := by rw [patience, patience, change.plans.1]
  refine ⟨List.mem_append_left _ told, ?_⟩
  rcases ends with ⟨deadline, phase, soon⟩ | phase
  · cases change with
    | refuse serving | unplanned serving | crash serving | launch serving | acceptFault serving
    | shutdown serving =>
      rw [phase] at serving
      cases serving
    | allReaped | timeout => exact .inr rfl
    | session | die | reap | pass =>
      refine .inl ⟨deadline, phase, ?_⟩
      rw [patience]
      omega
  · have final := change.final (by rw [phase]; rfl)
    exact .inr (final.1.trans phase)

/-- The phase of a server changes when it is told to stop, and when it has been. -/
theorem Change.told_of_serving (change : Change server move next more)
    (checked : server.settings.check = .ok ())
    (possible : server.settings.session.outboundQueueLimit.toNat ≤ largestQueue)
    (serving : server.phase = .serving) (stopped : next.phase ≠ .serving) :
    move = .shutdown ∧ ∃ deadline, next.phase = .waiting deadline ∧
      deadline = next.now + next.patience := by
  cases change with
  | unplanned _ _ refused =>
    obtain ⟨plan, planned⟩ := planned_of_check checked server.nextId server.routes
    rw [planned] at refused
    cases refused
  | @crash pipe _ _ _ _ planned impossible =>
    obtain ⟨-, -, starts, -⟩ := Session.starts_iff_outbound_queue_possible planned pipe
    obtain ⟨session, opened⟩ := starts.mpr possible
    rw [impossible] at opened
    cases opened
  | allReaped waiting | timeout waiting =>
    rw [serving] at waiting
    cases waiting
  | shutdown => exact ⟨rfl, _, rfl, rfl⟩
  | refuse | launch | acceptFault | session | die | reap | pass => exact absurd serving stopped

theorem plan_id_of_start {id : UInt64} {plan : Plan Handler} {pipe : Nat}
    {session : Session Handler} (planned : Plan.ofSettings id routes settings = .ok plan)
    (opened : plan.start pipe = .ok session) : session.plan.id = id := by
  obtain ⟨-, rfl⟩ := Session.Plan.ofSettings_eq_ok_iff.mp planned
  obtain ⟨-, rfl⟩ := Session.start_eq_ok_iff.mp opened
  rfl

theorem Ledger.phase (ledger : Ledger start moves signals server)
    (possible : server.settings.session.outboundQueueLimit.toNat ≤ largestQueue)
    (change : Change server move next more) :
    (next.phase = .serving → Serving (moves ++ [move]) next) ∧
      (next.phase ≠ .serving → Stopped (moves ++ [move]) next) := by
  by_cases serving : server.phase = .serving
  · refine ⟨(ledger.serving serving).step change, fun stopped => ?_⟩
    obtain ⟨rfl, deadline, waiting, soon⟩ :=
      change.told_of_serving ledger.managed.checked possible serving stopped
    exact ⟨by simp, .inl ⟨deadline, waiting, Nat.le_of_eq soon⟩⟩
  · have stopped := (ledger.stopped serving).step change
    refine ⟨fun again => ?_, fun _ => stopped⟩
    rcases stopped.ends with ⟨deadline, phase, -⟩ | phase <;> (rw [again] at phase; cases phase)

theorem Ledger.step (ledger : Ledger start moves signals server)
    (possible : server.settings.session.outboundQueueLimit.toNat ≤ largestQueue)
    (taken : server.step move = some (next, more)) :
    Ledger start (moves ++ [move]) (signals ++ more) next := by
  have change := change_of_step taken
  have reached := ledger.reached.step taken
  have managed := ledger.managed.step nofun ledger.reached taken
  have ⟨serving, stopped⟩ := ledger.phase possible change
  by_cases other : move.isAccept = false
  · obtain ⟨⟨count, ids, upcoming, refused⟩, rfl⟩ := change.untouched ledger.managed.staffed other
    refine ⟨reached, managed, ?_, ?_, ?_, ?_, ?_, serving, stopped⟩
    · simpa [count] using ledger.started
    · rw [ids, count, ledger.numbered]
    · rw [upcoming, count, ledger.upcoming]
    · simpa [other, count] using ledger.answered
    · simpa [refused] using ledger.refused
  · cases change with
    | refuse =>
      refine ⟨reached, managed, ?_, ledger.numbered, ledger.upcoming, ?_, ?_, serving, stopped⟩
      · rw [startedIn_append, ledger.started]
        exact List.append_nil _
      · have before := ledger.answered
        simp only [List.countP_append, List.countP_singleton, Move.isAccept, if_true,
          List.count_append, List.count_singleton_self, Session.Group.count]
        omega
      · show server.group.metrics.connectionsRefused + 1 = _
        rw [ledger.refused, List.count_append, List.count_singleton_self, UInt64.ofNat_add]
        rfl
    | @launch pipe plan session _ _ planned opened =>
      have upcoming := ledger.upcoming
      have numbered := ledger.numbered
      refine ⟨reached, managed, ?_, ?_, ?_, ?_, ?_, serving, stopped⟩
      · rw [startedIn_append, ledger.started, List.length_append, List.length_singleton,
          firstIds_succ, ← upcoming]
        rfl
      · have id : session.plan.id = server.nextId := plan_id_of_start planned opened
        simp only [ids] at numbered ⊢
        rw [List.map_append, numbered, List.length_append, List.length_singleton, firstIds_succ,
          List.map_singleton, id, upcoming]
      · rw [List.length_append, List.length_singleton, UInt64.ofNat_add, ← upcoming]
        rfl
      · have before := ledger.answered
        simp only [List.countP_append, List.countP_singleton, Move.isAccept, if_true,
          List.count_append, List.length_append, List.length_singleton]
        simp
        omega
      · rw [Session.connectionsRefused_countSignals, ledger.refused, List.count_append]
        rfl
    | unplanned phase | crash phase =>
      have order := (change_of_step taken).told_of_serving ledger.managed.checked possible phase
        (by simp)
      cases order.1
    | _ => exact absurd rfl other

theorem Ledger.play (ledger : Ledger start moves signals server)
    (possible : server.settings.session.outboundQueueLimit.toNat ≤ largestQueue)
    (played : server.play rest = some (next, more)) :
    Ledger start (moves ++ rest) (signals ++ more) next := by
  induction rest generalizing moves signals server more with
  | nil =>
    cases played
    simpa using ledger
  | cons move rest ih =>
    cases taken : server.step move with
    | none => simp [Acceptor.play, taken] at played
    | some outcome =>
      obtain ⟨second, given⟩ := outcome
      simp only [Acceptor.play, taken, Option.map_eq_some_iff] at played
      obtain ⟨⟨last, after⟩, remaining, same⟩ := played
      obtain ⟨rfl, rfl⟩ := Prod.mk.inj same
      have settings := (change_of_step taken).plans.1
      have whole := ih (ledger.step possible taken) (by rwa [settings]) remaining
      rw [List.append_assoc, List.append_assoc] at whole
      exact whole

/-- Sessions that go on are watched, each by one watch. -/
theorem Watching.length_running_le (watching : Watching server) :
    server.running.length ≤ server.watched.length := by
  have distinct : server.running.Nodup := List.nodup_range.filter _
  exact (distinct.subperm watching).length_le

theorem Ledger.watching (ledger : Ledger start moves signals server)
    (serving : server.phase = .serving) : Watching server := by
  cases ledger.managed.stage with
  | serving _ watching => exact watching
  | panicked phase =>
    rw [serving] at phase
    cases phase
  | closing _ _ closing => exact absurd serving closing.winding.not_serving

theorem Ledger.accept (ledger : Ledger start moves signals server)
    (possible : server.settings.session.outboundQueueLimit.toNat ≤ largestQueue)
    (serving : server.phase = .serving) (pipe : Nat) :
    ∃ next more, server.step (.accept pipe) = some (next, more) ∧
      if server.limit ≤ server.watched.length then
        more = [.refused] ∧
          next = { server with group := server.group.count .connectionRefused }
      else
        ∃ plan session, Plan.ofSettings server.nextId server.routes server.settings = .ok plan ∧
          plan.start pipe = .ok session ∧ more = [.started server.nextId] ∧
            next.group.sessions = server.group.sessions ++ [session] ∧ next.phase = .serving := by
  obtain ⟨next, more, accepted⟩ : ∃ next more, server.accept pipe = (next, more) := ⟨_, _, rfl⟩
  have taken : server.step (.accept pipe) = some (next, more) := by
    simp only [Acceptor.step, serving, accepted]
  refine ⟨next, more, taken, ?_⟩
  have change := change_of_step taken
  have told := change.told_of_serving ledger.managed.checked possible serving
  cases change with
  | refuse _ full =>
    rw [if_pos full]
    exact ⟨rfl, rfl⟩
  | launch _ room planned opened =>
    rw [if_neg (Nat.not_le.mpr room)]
    exact ⟨_, _, planned, opened, rfl, rfl, serving⟩
  | unplanned | crash =>
    have order := told (by simp)
    cases order.1

theorem toNat_firstIds {count : Nat} (few : count < UInt64.size) :
    (firstIds count).map UInt64.toNat = (List.range count).map (· + 1) := by
  simp only [firstIds, List.map_map]
  refine List.map_congr_left fun index inside => ?_
  have below := List.mem_range.mp inside
  exact UInt64.toNat_ofNat_of_lt' (by omega)

/-- A server answers every connection with a session of the next number or with a refusal, and it
refuses one exactly if as many sessions as the limit allows were started and their end was not taken
note of. So no more than that go on before it is told to stop. Until then it serves, whatever comes
of its sessions and connections, and when it returns it was told to stop and returns no fault. -/
theorem connections_admitted_up_to_limit (used : serve settings routes = .ok start)
    (possible : settings.session.outboundQueueLimit.toNat ≤ largestQueue)
    (played : start.play moves = some (server, signals)) :
    let limit := settings.server.maxConnections.toNat
    let started := startedIn signals
    let reaps := moves.countP Move.isReap
    started = firstIds started.length ∧
      (started.length < UInt64.size →
        started.map UInt64.toNat = (List.range started.length).map (· + 1)) ∧
      server.ids = started ∧
      moves.countP Move.isAccept = started.length + signals.count .refused ∧
      server.group.metrics.connectionsRefused = .ofNat (signals.count .refused) ∧
      (.shutdown ∉ moves →
        server.phase = .serving ∧ server.running.length ≤ limit ∧ started.length ≤ reaps + limit ∧
          ∀ pipe, ∃ next more, server.step (.accept pipe) = some (next, more) ∧
            if started.length = reaps + limit then
              more = [.refused] ∧
                next = { server with group := server.group.count .connectionRefused }
            else
              ∃ plan session,
                Plan.ofSettings (.ofNat (started.length + 1)) server.routes settings = .ok plan ∧
                  plan.start pipe = .ok session ∧
                  more = [.started (.ofNat (started.length + 1))] ∧
                  next.group.sessions = server.group.sessions ++ [session] ∧
                  next.phase = .serving) ∧
      (.shutdown ∈ moves → server.result? = some (.ok ()) ∨
        ∃ deadline, server.phase = .waiting deadline ∧
          deadline ≤ server.now + settings.session.shutdownTimeout.toMillisUp ∧
          (deadline ≤ server.now → ∃ next, server.step .timeout = some (next, []) ∧
            next.result? = some (.ok ()))) ∧
      ∀ result, server.result? = some result → result = .ok () ∧ .shutdown ∈ moves := by
  intro limit started reaps
  obtain ⟨first, same⟩ := ledger_serve used
  have ledger : Ledger start moves signals server := first.play (by rwa [same]) played
  have kept : server.settings = settings := by rw [ledger.managed.settings, same]
  have ids : startedIn signals = firstIds server.group.sessions.length := by
    simpa using ledger.started
  have count : started.length = server.group.sessions.length := by simp [started, ids]
  refine ⟨by rw [count]; exact ids, ?_, ?_, ?_, ?_, ?_, ?_, ?_⟩
  · intro few
    rw [show started = _ from ids, length_firstIds]
    exact toNat_firstIds (by rwa [count] at few)
  · rw [ledger.numbered, ← ids]
  · rw [count]
    simpa using ledger.answered
  · simpa using ledger.refused
  · intro untold
    have serving : server.phase = .serving :=
      Classical.byContradiction fun stopped => untold (ledger.stopped stopped).told
    obtain ⟨-, watches, within⟩ := ledger.serving serving
    have running := (ledger.watching serving).length_running_le
    rw [Acceptor.limit, kept] at within
    rw [← count] at watches
    refine ⟨serving, Nat.le_trans running within, by omega, fun pipe => ?_⟩
    have full : server.limit ≤ server.watched.length ↔ started.length = reaps + limit := by
      rw [Acceptor.limit, kept]
      omega
    have admitted := ledger.accept (by rwa [kept]) serving pipe
    simpa only [full, kept, ledger.upcoming, ← count] using admitted
  · intro told
    have stopped := ledger.stopped fun serving => (ledger.serving serving).untold told
    rcases stopped.ends with ⟨deadline, waiting, soon⟩ | returned
    · refine .inr ⟨deadline, waiting, by rwa [patience, kept] at soon, fun late => ?_⟩
      exact ⟨_, by simp only [Acceptor.step, waiting, if_pos late]; rfl, rfl⟩
    · exact .inl (result?_eq_some_iff.mpr returned)
  · intro result returned
    rw [result?_eq_some_iff] at returned
    have stopped := ledger.stopped (by simp [returned])
    rcases stopped.ends with ⟨deadline, waiting, -⟩ | without
    · rw [returned] at waiting
      cases waiting
    · rw [returned] at without
      cases without
      exact ⟨rfl, stopped.told⟩

def singleSettings : Settings :=
  { Session.narrowSettings with server := { maxConnections := 1 } }

/-- A connection is refused while another has a session; when the session's task has died, which the
server notices, the next one gets a session again. -/
def singleMoves : List Move :=
  [.accept 64, .accept 64, .acceptFault, .die 0, .reap 0, .accept 64]

theorem connections_admitted_one_by_one :
    ∃ (start server : Acceptor Unit) (signals : List Signal),
      serve singleSettings Session.narrowPlan.routes = .ok start ∧
        singleSettings.session.outboundQueueLimit.toNat ≤ largestQueue ∧
        start.play singleMoves = some (server, signals) ∧
        startedIn signals = [1, 2] ∧ server.running.length ≤ 1 ∧
        server.group.metrics.connectionsRefused = 1 ∧
        ∃ next, server.step (.accept 64) = some (next, [.refused]) := by
  obtain ⟨start, server, signals, used, played, given⟩ :
      ∃ (start server : Acceptor Unit) (signals : List Signal),
        serve singleSettings Session.narrowPlan.routes = .ok start ∧
          start.play singleMoves = some (server, signals) ∧
          signals = [.started 1, .refused, .started 2] := ⟨_, _, _, rfl, rfl, rfl⟩
  have possible : singleSettings.session.outboundQueueLimit.toNat ≤ largestQueue := by decide
  subst given
  obtain ⟨-, -, -, -, refused, serving, -, -⟩ :=
    connections_admitted_up_to_limit used possible played
  obtain ⟨-, few, -, admitted⟩ := serving (by simp [singleMoves])
  obtain ⟨next, more, taken, decided⟩ := admitted 64
  have full : (startedIn [.started 1, .refused, .started 2]).length =
      singleMoves.countP Move.isReap + singleSettings.server.maxConnections.toNat := rfl
  rw [if_pos full] at decided
  obtain ⟨rfl, -⟩ := decided
  exact ⟨start, server, _, used, possible, played, rfl, few, refused, next, taken⟩

end Acceptor
end Courier
