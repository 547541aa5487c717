import Courier.Proofs.Session.Trace
import Courier.Session.Live

/-! Sessions with their handlers at work, seen as sessions alone. A handler moves its session by
sending and by ending, and in no other way, so that what is known of the runs of a session is known
of its runs with handlers. -/
namespace Courier.Session.Live

/-- The move that the session makes in a move, if it makes one. -/
def drives (live : Live) : Move → Option Session.Move
  | .session move => some move
  | .grant _ => none
  | .job =>
    match live.job with
    | none => none
    | some job =>
      match job.invocation.demand with
      | .pause _ | .permit | .cancellation => none
      | .room package =>
        match live.session.sending package with
        | .refused fault => some (.worker (.finish (.returned (.error fault))))
        | _ => some (.outer (.send package))
      | .finish verdict => some (.worker (.finish verdict))

def play (live : Live) : List Move → Option (Live × List Session.Move × List Signal)
  | [] => some (live, [], [])
  | move :: rest =>
    match live.step move with
    | none => none
    | some (next, report) => (next.play rest).map fun (last, driven, more) =>
      (last, (live.drives move).toList ++ driven, report.signals ++ more)

/-- What one move can be: one of the session's own, the start of a handler, or a turn of the handler
at work. -/
inductive Turn (live : Live) : Move → Live → List Signal → Prop where
  | own {move : Session.Move} {session : Session Handler} {signals : List Signal}
      (starts : move ≠ .worker .start) (finishes : ∀ verdict, move ≠ .worker (.finish verdict))
      (taken : live.session.step move = some (session, signals)) :
      Turn live (.session move) { live with session } signals
  | start {package : Package} {handler : Handler} (at_ : live.session.worker = .assigned package)
      (routed : live.session.plan.routes.resolve? package = some handler) :
      Turn live (.session (.worker .start))
        { live with
          session := { live.session with worker := .handling package handler }
          job := some { invocation := .start handler package } }
        [.started package]
  | miss {package : Package} (at_ : live.session.worker = .assigned package)
      (unrouted : live.session.plan.routes.resolve? package = none) :
      Turn live (.session (.worker .start))
        { live with session := { live.session with worker := .idle } } [.missed package]
  | sleep {job : Job} {millis : Nat} (at_ : live.job = some job)
      (needs : job.invocation.demand = .pause millis) (awake : job.wakesAt = none)
      (long : millis ≠ 0) :
      Turn live .job
        { live with job := some { job with wakesAt := some (live.session.now + millis) } } []
  | wake {job : Job} {millis : Nat} (at_ : live.job = some job)
      (needs : job.invocation.demand = .pause millis)
      (due : ∀ moment, job.wakesAt = some moment → moment ≤ live.session.now) :
      Turn live .job (live.resumeJob job) []
  | allow {job : Job} (at_ : live.job = some job) (needs : job.invocation.demand = .permit)
      (left : 0 < live.permits) :
      Turn live .job ({ live with permits := live.permits - 1 }.resumeJob job) []
  | heed {job : Job} (at_ : live.job = some job) (needs : job.invocation.demand = .cancellation)
      (cancelled : live.session.cancelled = true) : Turn live .job (live.resumeJob job) []
  | send {job : Job} {package : Package} {session : Session Handler} {signals : List Signal}
      (at_ : live.job = some job) (needs : job.invocation.demand = .room package)
      (accepted : live.session.sending package = .accepted)
      (taken : live.session.step (.outer (.send package)) = some (session, signals)) :
      Turn live .job ({ live with session }.resumeJob job) signals
  | refuse {job : Job} {package : Package} {fault : Fault} {session : Session Handler}
      {signals : List Signal} (at_ : live.job = some job)
      (needs : job.invocation.demand = .room package)
      (refused : live.session.sending package = .refused fault)
      (taken : live.session.step (.worker (.finish (.returned (.error fault)))) =
        some (session, signals)) :
      Turn live .job { live with session, job := none } signals
  | finish {job : Job} {verdict : Verdict} {session : Session Handler} {signals : List Signal}
      (at_ : live.job = some job) (needs : job.invocation.demand = .finish verdict)
      (taken : live.session.step (.worker (.finish verdict)) = some (session, signals)) :
      Turn live .job { live with session, job := none } signals
  | grant {permits : Nat} :
      Turn live (.grant permits) { live with permits := live.permits + permits } []

/-- The runs of a session with its handlers by their moves, with the moves of the session. -/
inductive Trace (start : Live) : Live → List Move → List Session.Move → List Signal → Prop where
  | stay : Trace start start [] [] []
  | step {live next : Live} {moves : List Move} {driven : List Session.Move}
      {signals more : List Signal} {move : Move} (earlier : Trace start live moves driven signals)
      (turn : Turn live move next more) :
      Trace start next (moves ++ [move]) (driven ++ (live.drives move).toList) (signals ++ more)

variable {start live next : Live} {moves : List Move} {move : Move} {driven : List Session.Move}
  {signals more : List Signal} {report : Report}

private theorem turn_of_startJob (taken : live.startJob = some (next, report)) :
    Turn live (.session (.worker .start)) next report.signals := by
  cases at_ : live.session.worker with
  | assigned package =>
    cases routed : live.session.plan.routes.resolve? package with
    | some handler =>
      simp only [startJob, Session.step, stepWorker, at_, routed, Option.bind_eq_bind,
        Option.bind_some] at taken
      cases taken
      exact .start at_ routed
    | none =>
      simp only [startJob, Session.step, stepWorker, at_, routed, Option.bind_eq_bind,
        Option.bind_some] at taken
      cases taken
      exact .miss at_ routed
  | _ => simp [startJob, Session.step, stepWorker, at_] at taken

private theorem stepped_of_endJob {job : Job} {verdict : Verdict}
    (taken : live.endJob job verdict = some (next, report)) :
    ∃ session, live.session.step (.worker (.finish verdict)) = some (session, report.signals) ∧
      next = { live with session, job := none } := by
  cases stepped : live.session.step (.worker (.finish verdict)) with
  | none => simp [endJob, stepped] at taken
  | some outcome =>
    obtain ⟨session, signals⟩ := outcome
    simp only [endJob, stepped, Option.bind_eq_bind, Option.bind_some] at taken
    cases taken
    exact ⟨session, rfl, rfl⟩

private theorem turn_of_stepJob (taken : live.stepJob = some (next, report)) :
    Turn live .job next report.signals := by
  cases at_ : live.job with
  | none => simp [stepJob, at_] at taken
  | some job =>
    simp only [stepJob, at_, Option.bind_eq_bind, Option.bind_some] at taken
    cases needs : job.invocation.demand with
    | pause millis =>
      simp only [needs] at taken
      split at taken
      · rename_i moment wakes
        split at taken <;> cases taken
        rename_i due
        refine .wake at_ needs fun other same => ?_
        rw [wakes] at same
        cases same
        exact due
      · rename_i awake
        split at taken <;> cases taken
        · exact .wake at_ needs (by simp [awake])
        · rename_i long
          exact .sleep at_ needs awake long
    | permit =>
      simp only [needs] at taken
      split at taken <;> cases taken
      rename_i left
      exact .allow at_ needs left
    | cancellation =>
      simp only [needs] at taken
      split at taken <;> cases taken
      rename_i cancelled
      exact .heed at_ needs cancelled
    | room package =>
      simp only [needs] at taken
      split at taken
      · rename_i accepted
        cases stepped : live.session.step (.outer (.send package)) with
        | none => simp [stepped] at taken
        | some outcome =>
          simp only [stepped, Option.bind_some] at taken
          cases taken
          exact .send at_ needs accepted stepped
      · rename_i fault refused
        obtain ⟨session, stepped, rfl⟩ := stepped_of_endJob taken
        exact .refuse at_ needs refused stepped
      · cases taken
    | finish verdict =>
      simp only [needs] at taken
      obtain ⟨session, stepped, rfl⟩ := stepped_of_endJob taken
      exact .finish at_ needs stepped

theorem turn_of_step (taken : live.step move = some (next, report)) :
    Turn live move next report.signals := by
  cases move with
  | job => exact turn_of_stepJob taken
  | grant permits =>
    cases taken
    exact .grant
  | session move =>
    by_cases starts : move = .worker .start
    · subst starts
      exact turn_of_startJob taken
    · have finishes : ∀ verdict, move ≠ .worker (.finish verdict) := by
        rintro verdict rfl
        cases taken
      have plain : live.stepSession move = some (next, report) := by
        rw [← taken]
        unfold Live.step
        split <;> simp_all
      cases stepped : live.session.step move with
      | none => simp [stepSession, stepped] at plain
      | some outcome =>
        simp only [stepSession, stepped, Option.bind_eq_bind, Option.bind_some] at plain
        cases plain
        exact .own starts finishes stepped

theorem drives_job {own : Session.Move} (drives : live.drives .job = some own) :
    (∃ package, own = .outer (.send package)) ∨ ∃ verdict, own = .worker (.finish verdict) := by
  cases at_ : live.job with
  | none => simp [Live.drives, at_] at drives
  | some job =>
    cases needs : job.invocation.demand with
    | pause | permit | cancellation => simp [Live.drives, at_, needs] at drives
    | room package =>
      simp only [Live.drives, at_, needs] at drives
      split at drives <;> cases drives
      · exact .inr ⟨_, rfl⟩
      · exact .inl ⟨_, rfl⟩
    | finish verdict =>
      simp only [Live.drives, at_, needs] at drives
      cases drives
      exact .inr ⟨_, rfl⟩

/-- The session makes the move that it is driven to, or stays as it is. -/
theorem Turn.moves_session (turn : Turn live move next more) :
    live.drives move = none ∧ next.session = live.session ∧ more = [] ∨
      ∃ own, live.drives move = some own ∧
        live.session.step own = some (next.session, more) := by
  cases turn with
  | own _ _ taken => exact .inr ⟨_, rfl, taken⟩
  | start at_ routed => exact .inr ⟨_, rfl, by simp [Session.step, stepWorker, at_, routed]⟩
  | miss at_ unrouted => exact .inr ⟨_, rfl, by simp [Session.step, stepWorker, at_, unrouted]⟩
  | sleep at_ needs | wake at_ needs | allow at_ needs | heed at_ needs =>
    exact .inl ⟨by simp [drives, at_, needs], rfl, rfl⟩
  | send at_ needs accepted taken => exact .inr ⟨_, by simp [drives, at_, needs, accepted], taken⟩
  | refuse at_ needs refused taken => exact .inr ⟨_, by simp [drives, at_, needs, refused], taken⟩
  | finish at_ needs taken => exact .inr ⟨_, by simp [drives, at_, needs], taken⟩
  | grant => exact .inl ⟨rfl, rfl, rfl⟩

/-- A run with handlers is a run of the session. -/
theorem Trace.session (trace : Trace start live moves driven signals) :
    Session.Trace start.session live.session driven signals := by
  induction trace with
  | stay => exact .stay
  | step _ turn ih =>
    rcases turn.moves_session with ⟨none, same, rfl⟩ | ⟨own, some, taken⟩
    · simpa [none, same] using ih
    · rw [some]
      exact ih.step taken

theorem Trace.cons (turn : Turn start move next signals)
    (later : Trace next live moves driven more) :
    Trace start live (move :: moves) ((start.drives move).toList ++ driven) (signals ++ more) := by
  induction later with
  | stay => simpa using Trace.step .stay turn
  | step _ last ih =>
    rw [← List.cons_append, ← List.append_assoc, ← List.append_assoc]
    exact .step ih last

theorem trace_of_play (played : start.play moves = some (live, driven, signals)) :
    Trace start live moves driven signals := by
  induction moves generalizing start driven signals with
  | nil =>
    cases played
    exact .stay
  | cons first rest ih =>
    cases moved : start.step first with
    | none => simp [play, moved] at played
    | some outcome =>
      obtain ⟨second, report⟩ := outcome
      simp only [play, moved, Option.map_eq_some_iff] at played
      obtain ⟨⟨last, later, more⟩, remaining, same⟩ := played
      cases same
      exact .cons (turn_of_step moved) (ih remaining)

end Courier.Session.Live
