import Courier.Proofs.Server.Members

/-! The stages of a server: it serves, with a watch on every session that goes on, until it is told
to stop; it tells every session to close and waits for those it watches until a deadline; then it
returns. -/
namespace Courier.Acceptor

open Session (Told)

variable {Handler : Type} {start told server next : Acceptor Handler} {move : Move}
  {signals more : List Signal} {index : Nat} {session : Session Handler}
  {settings : Settings} {routes : Route.Table Handler} {result : Except Fault Unit} {paced : Prop}

def Watching (server : Acceptor Handler) : Prop :=
  ∀ index ∈ server.running, index ∈ server.watched

theorem Watching.step (watching : Watching server) (staffed : Staffed server)
    (change : Change server move next more) (open_ : ∀ result, next.phase ≠ .returned result) :
    Watching next := by
  intro index going
  rcases staffed.going change going with before | ⟨-, watched⟩
  · have watched := watching index before
    cases change with
    | launch => exact List.mem_append_left _ watched
    | @reap place _ ended =>
      -- the session that is taken note of has ended, and this one goes on
      have other : index ≠ place := by
        rintro rfl
        simp [running, ended] at before
      exact (List.mem_erase_of_ne other).mpr watched
    | timeout => exact absurd rfl (open_ _)
    | _ => exact watched
  · exact watched

/-- How long a server waits for its sessions: as long as a session waits for its handler. -/
def patience (server : Acceptor Handler) : Nat :=
  server.settings.session.shutdownTimeout.toMillisUp

/-- Since it was told to stop a server waits until the deadline. It returns when no session goes on
or the deadline has come. -/
inductive Winding (told server : Acceptor Handler) : Prop where
  | waiting (phase : server.phase = .waiting (told.now + told.patience))
      (watching : Watching server)
  | returned (phase : server.phase = .returned (.ok ()))
      (settled : server.running = [] ∨ told.now + told.patience ≤ server.now)

theorem Change.now_le (change : Change server move next more) : server.now ≤ next.now := by
  cases change with
  | pass => exact Nat.le_add_right _ _
  | _ => exact Nat.le_refl _

theorem Winding.not_serving (winding : Winding told server) : server.phase ≠ .serving := by
  cases winding with
  | waiting phase | returned phase =>
    rw [phase]
    exact nofun

theorem Winding.step (winding : Winding told server) (staffed : Staffed server)
    (change : Change server move next more) : Winding told next := by
  have stopped := winding.not_serving
  have going : ∀ index ∈ next.running, index ∈ server.running :=
    fun index => staffed.none_starts change stopped
  have later := change.now_le
  cases winding with
  | waiting phase watching =>
    have watched := watching.step staffed change
    cases change with
    | refuse serving | unplanned serving | crash serving | launch serving | acceptFault serving
    | shutdown serving =>
      exact absurd serving stopped
    | allReaped _ none =>
      refine .returned rfl (.inl (List.eq_nil_iff_forall_not_mem.mpr fun index going => ?_))
      have watched : index ∈ server.watched := watching index going
      rw [none] at watched
      cases watched
    | timeout waiting late =>
      rw [phase] at waiting
      cases waiting
      exact .returned rfl (.inr late)
    | session | die | reap | pass =>
      exact .waiting phase (watched fun _ returned => nomatch phase.symm.trans returned)
  | returned phase settled =>
    have kept : next.running = [] ∨ told.now + told.patience ≤ next.now := by
      rcases settled with none | late
      · refine .inl (List.eq_nil_iff_forall_not_mem.mpr fun index member => ?_)
        have before := going index member
        rw [none] at before
        cases before
      · exact .inr (Nat.le_trans late later)
    have final := change.final (by rw [phase]; rfl)
    exact .returned (final.1.trans phase) kept

/-- A server that was told to stop in the state `told` has told all its sessions to close. When it
is `paced`, no time is lost on those that go on. -/
structure Closing (paced : Prop) (told server : Acceptor Handler) : Prop where
  ordered : told.phase = .waiting (told.now + told.patience)
  winding : Winding told server
  plans : server.settings = told.settings ∧ server.routes = told.routes
  dismissed : Dismissed server
  told : paced → ∀ (index : Nat) (session : Session Handler),
    server.group.sessions[index]? = some session → index ∉ server.dead →
      Told told.settings told.routes told.now server.now session

theorem Closing.step (closing : Closing paced told server) (staffed : Staffed server)
    (patient : paced → ∀ millis, move = .pass millis → server.Quiet)
    (change : Change server move next more) : Closing paced told next := by
  have stopped := closing.winding.not_serving
  have dismissed := closing.dismissed.step staffed change stopped
  refine ⟨closing.ordered, closing.winding.step staffed change, ?_, dismissed, ?_⟩
  · obtain ⟨settings, routes⟩ := change.plans
    rw [settings, routes]
    exact closing.plans
  · intro pace index session found alive
    have living := change.dead alive
    cases change.passage found with
    | fresh serving => exact absurd serving stopped
    | still at_ clock =>
      rw [clock]
      exact closing.told pace _ _ at_ living
    | moved at_ taken timeless clock =>
      rw [clock]
      exact (closing.told pace _ _ at_ living).step timeless taken
    | waited at_ passes clock =>
      rw [clock]
      have quiet := (patient pace _ passes).quiet_session at_ living
      exact (closing.told pace _ _ at_ living).wait quiet

theorem closing_of_shutdown (tended : paced → Tended server.settings server.routes server)
    (watching : Watching server) (staffed : Staffed server)
    (change : Change server .shutdown next more) : Closing paced next next := by
  have staying := staffed.change change
  have watched := watching.step staffed change
  cases change with
  | shutdown serving =>
    refine ⟨rfl, .waiting rfl (watched nofun), ⟨rfl, rfl⟩, ?_, ?_⟩
    · intro index session found
      simp only [Session.Group.cancel, List.getElem?_map, Option.map_eq_some_iff] at found
      obtain ⟨earlier, -, rfl⟩ := found
      rfl
    · intro pace index session found alive
      simp only [Session.Group.cancel, List.getElem?_map, Option.map_eq_some_iff] at found
      obtain ⟨earlier, at_, rfl⟩ := found
      have raised := (tended pace index earlier at_ alive).step (fun _ same => by cases same)
        (Session.step_cancel earlier)
      exact ⟨raised, rfl, .stay, rfl⟩

/-- The stages of a server that is used under settings which keep every limit. -/
inductive Stage (paced : Prop) (start server : Acceptor Handler) : Prop where
  | serving (phase : server.phase = .serving) (watching : Watching server)
  | panicked (phase : server.phase = .panicked)
  | closing {told : Acceptor Handler} {before after : List Signal}
      (reached : Run start told before) (later : Run told server after)
      (closing : Closing paced told server)

theorem planned_of_check (checked : settings.check = .ok ()) (id : UInt64)
    (routes : Route.Table Handler) : ∃ plan, Session.Plan.ofSettings id routes settings = .ok plan :=
  ⟨_, Session.Plan.ofSettings_eq_ok_iff.mpr ⟨Settings.checkSession_of_check checked, rfl⟩⟩

theorem Stage.step (stage : Stage paced start server) (checked : server.settings.check = .ok ())
    (staffed : Staffed server) (tended : paced → Tended server.settings server.routes server)
    (patient : paced → ∀ millis, move = .pass millis → server.Quiet)
    (reached : Run start server signals) (taken : server.step move = some (next, more)) :
    Stage paced start next := by
  have change := change_of_step taken
  cases stage with
  | serving phase watching =>
    have watched := watching.step staffed change
    cases change with
    | unplanned _ _ refused =>
      obtain ⟨plan, planned⟩ := planned_of_check checked server.nextId server.routes
      rw [planned] at refused
      cases refused
    | crash => exact .panicked rfl
    | allReaped waiting | timeout waiting =>
      rw [phase] at waiting
      cases waiting
    | shutdown =>
      have closing := closing_of_shutdown tended watching staffed (change_of_step taken)
      exact .closing (reached.step taken) .stay closing
    | refuse | launch | acceptFault | session | die | reap | pass =>
      exact .serving phase (watched fun _ returned => nomatch phase.symm.trans returned)
  | panicked phase =>
    have final := change.final (by rw [phase]; rfl)
    exact .panicked (final.1.trans phase)
  | closing before later closing =>
    exact .closing before (later.step taken) (closing.step staffed patient change)

/-- What is known of a server at any time: its settings keep every limit, its sessions are sound, and
it is in one of its stages. When it is `paced`, no time has been lost on sessions that go on. -/
structure Managed (paced : Prop) (start server : Acceptor Handler) : Prop where
  checked : server.settings.check = .ok ()
  settings : server.settings = start.settings
  staffed : Staffed server
  tended : paced → Tended server.settings server.routes server
  stage : Stage paced start server

theorem managed_serve (used : serve settings routes = .ok start) :
    (∀ paced, Managed paced start start) ∧ start.settings = settings := by
  cases checked : settings.check with
  | error fault => simp [serve, checked, bind, Except.bind] at used
  | ok =>
    simp only [serve, checked, bind, Except.bind, pure, Except.pure, Except.ok.injEq] at used
    subst used
    refine ⟨fun paced => ⟨checked, rfl, ?_, ?_, .serving rfl ?_⟩, rfl⟩
    · intro index session found
      cases found
    · intro pace index session found
      cases found
    · intro index going
      cases going

theorem Managed.step (managed : Managed paced start server)
    (patient : paced → ∀ millis, move = .pass millis → server.Quiet)
    (reached : Run start server signals) (taken : server.step move = some (next, more)) :
    Managed paced start next := by
  have change := change_of_step taken
  obtain ⟨checked, settings, staffed, tended, stage⟩ := managed
  refine ⟨?_, ?_, staffed.change change, ?_, ?_⟩
  · rw [change.plans.1]
    exact checked
  · rw [change.plans.1]
    exact settings
  · exact fun pace => (tended pace).step (patient pace) change
  · exact stage.step checked staffed tended patient reached taken

theorem Managed.run (managed : Managed False start start) (run : Run start server signals) :
    Managed False start server := by
  induction run with
  | stay => exact managed
  | step reached taken ih => exact ih.step nofun reached taken

theorem Managed.patientRun (managed : Managed True start start)
    (run : PatientRun start server signals) : Managed True start server := by
  induction run with
  | stay => exact managed
  | step reached patient taken ih => exact ih.step (fun _ => patient) reached.run taken

/-- What is left of a server that has returned is the end of its shutdown. -/
theorem Managed.closing (managed : Managed paced start server)
    (returned : server.phase = .returned result) :
    ∃ (told : Acceptor Handler) (before after : List Signal),
      Run start told before ∧ Run told server after ∧ Closing paced told server ∧
        told.settings = start.settings ∧ result = .ok () ∧
        (server.running = [] ∨ told.now + told.patience ≤ server.now) := by
  cases managed.stage with
  | serving phase | panicked phase =>
    rw [returned] at phase
    cases phase
  | @closing told before after reached later closing =>
    have same : told.settings = start.settings := by rw [← closing.plans.1, managed.settings]
    cases closing.winding with
    | waiting phase =>
      rw [returned] at phase
      cases phase
    | returned phase settled =>
      rw [returned] at phase
      cases phase
      exact ⟨told, before, after, reached, later, closing, same, rfl, settled⟩

end Courier.Acceptor
