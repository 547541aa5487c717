import Courier.Proofs.Session.Coherence
import Courier.Proofs.Session.Intake

/-! The rounds of the worker. It goes through the packages one at a time: it hands them to their
handlers, each round complete before the next package is taken, and once it has skipped one because
the session is closing it skips all that follow. -/
namespace Courier.Session

variable {Handler : Type}

/-- What became of a package that the worker took. -/
inductive Round where
  | missed (package : Package)
  | served (package : Package) (verdict : Verdict)
  | skipped (package : Package)

namespace Round

def package : Round → Package
  | .missed package | .served package _ | .skipped package => package

def signals : Round → List Signal
  | .missed package => [.taken package, .missed package]
  | .served package verdict => [.taken package, .started package, .completed package verdict]
  | .skipped package => [.taken package, .skipped package]

def isSkip : Round → Bool
  | .skipped _ => true
  | _ => false

def isMiss : Round → Bool
  | .missed _ => true
  | _ => false

def isSuccess : Round → Bool
  | .served _ (.returned (.ok ())) => true
  | _ => false

def isFailure : Round → Bool
  | .served _ (.returned (.error _)) | .served _ .panicked => true
  | _ => false

/-- The package was handed on just as the routes say. -/
def Follows (routes : Route.Table Handler) : Round → Prop
  | .missed package => routes.resolve? package = none
  | .served package _ => (routes.resolve? package).isSome = true
  | .skipped _ => False

end Round

/-- The signals of a round that has not ended. -/
def Worker.begun : Worker Handler → List Signal
  | .idle | .stopped => []
  | .weighing package | .assigned package => [.taken package]
  | .handling package _ => [.taken package, .started package]

/-- The package of a round that has not ended. -/
def Worker.inHand : Worker Handler → List Package
  | .idle | .stopped => []
  | .weighing package | .assigned package | .handling package _ => [package]

/-- A package has been handed on and its round has not ended. -/
def Worker.isAtWork : Worker Handler → Bool
  | .assigned _ | .handling .. => true
  | _ => false

namespace Signal

def work : Signal → List Signal
  | .taken package => [.taken package]
  | .skipped package => [.skipped package]
  | .started package => [.started package]
  | .missed package => [.missed package]
  | .completed package verdict => [.completed package verdict]
  | _ => []

def starts : Signal → List Package
  | .started package => [package]
  | _ => []

def completes : Signal → List Package
  | .completed package _ => [package]
  | _ => []

def skips : Signal → List Package
  | .skipped package => [package]
  | _ => []

def misses : Signal → List Package
  | .missed package => [package]
  | _ => []

def succeeds : Signal → List Package
  | .completed package (.returned (.ok ())) => [package]
  | _ => []

def fails : Signal → List Package
  | .completed package (.returned (.error _)) | .completed package .panicked => [package]
  | _ => []

end Signal

/-- What the worker did, in order. -/
abbrev workIn (signals : List Signal) : List Signal := signals.flatMap Signal.work

/-- The packages whose handlers were invoked. -/
abbrev startedIn (signals : List Signal) : List Package := signals.flatMap Signal.starts

abbrev completedIn (signals : List Signal) : List Package := signals.flatMap Signal.completes

abbrev skippedIn (signals : List Signal) : List Package := signals.flatMap Signal.skips

abbrev missedIn (signals : List Signal) : List Package := signals.flatMap Signal.misses

abbrev succeededIn (signals : List Signal) : List Package := signals.flatMap Signal.succeeds

abbrev failedIn (signals : List Signal) : List Package := signals.flatMap Signal.fails

/-- The work so far is a run of dispatches, a run of skips and at most one round in hand, which is
no dispatch behind a skip. -/
structure Rounds (session : Session Handler) (signals : List Signal)
    (dispatches skips : List Round) : Prop where
  work : workIn signals =
    (dispatches ++ skips).flatMap Round.signals ++ session.worker.begun
  follows : ∀ round ∈ dispatches, round.Follows session.plan.routes
  skipping : ∀ round ∈ skips, round.isSkip = true
  closing : skips ≠ [] → session.cancelled = true ∧ session.worker.isAtWork = false

structure Service (session : Session Handler) (signals : List Signal) : Prop where
  rounds : ∃ dispatches skips, Rounds session signals dispatches skips
  routed : ∀ package handler, session.worker = .handling package handler →
    session.plan.routes.resolve? package = some handler

variable {start session next : Session Handler} {move : Move} {signals more : List Signal}

theorem service_start {plan : Plan Handler} {pipe : Nat} (opened : plan.start pipe = .ok start) :
    Service start [] := by
  obtain ⟨-, rfl⟩ := start_eq_ok_iff.mp opened
  exact ⟨⟨[], [], rfl, by simp, by simp, by simp⟩, by simp⟩

theorem Rounds.skips_eq_nil {dispatches skips : List Round}
    (rounds : Rounds session signals dispatches skips)
    (busy : session.worker.isAtWork = true) : skips = [] := by
  cases skips with
  | nil => rfl
  | cons round rest =>
    have free := (rounds.closing (by simp)).2
    rw [busy] at free
    cases free

/-- What the worker did stays as it is while others move; a session that closes goes on to. -/
theorem Service.still (service : Service session signals) (idle : workIn more = [])
    (plan : next.plan = session.plan) (worker : next.worker = session.worker)
    (cancelled : session.cancelled = true → next.cancelled = true) :
    Service next (signals ++ more) := by
  obtain ⟨dispatches, skips, rounds⟩ := service.rounds
  refine ⟨⟨dispatches, skips, ?_, ?_, rounds.skipping, ?_⟩, ?_⟩
  · simp [idle, worker, rounds.work]
  · simpa [plan] using rounds.follows
  · intro some
    obtain ⟨closing, free⟩ := rounds.closing some
    exact ⟨cancelled closing, by rw [worker]; exact free⟩
  · simpa [plan, worker] using service.routed

theorem cancelled_endReading (session : Session Handler) (how : End)
    (cancelled : session.cancelled = true) : (session.endReading how).cancelled = true := by
  rw [endReading_eq]
  cases how <;> simp [cancelled]

theorem Service.change (service : Service session signals)
    (change : Change session move next more) : Service next (signals ++ more) := by
  obtain ⟨dispatches, skips, rounds⟩ := service.rounds
  have work := rounds.work
  cases change with
  | take at_ =>
    simp only [at_, Worker.begun, List.append_nil] at work
    refine ⟨⟨dispatches, skips, ?_, rounds.follows, rounds.skipping, ?_⟩, by simp⟩
    · simp [work, Signal.work, Worker.begun]
    · exact fun some => ⟨(rounds.closing some).1, rfl⟩
  | @skip package at_ cancelled =>
    simp only [at_, Worker.begun] at work
    refine ⟨⟨dispatches, skips ++ [.skipped package], ?_, rounds.follows, ?_, ?_⟩, by simp⟩
    · simp [work, Signal.work, Worker.begun, Round.signals]
    · simpa [or_imp, forall_and, Round.isSkip] using rounds.skipping
    · exact fun _ => ⟨cancelled, rfl⟩
  | assign at_ going =>
    simp only [at_, Worker.begun] at work
    refine ⟨⟨dispatches, skips, ?_, rounds.follows, rounds.skipping, ?_⟩, by simp⟩
    · simp [work, Worker.begun]
    · intro some
      have closing := (rounds.closing some).1
      rw [going] at closing
      cases closing
  | start at_ routed =>
    simp only [at_, Worker.begun] at work
    refine ⟨⟨dispatches, skips, ?_, rounds.follows, rounds.skipping, ?_⟩, ?_⟩
    · simp [work, Signal.work, Worker.begun]
    · intro some
      have free := (rounds.closing some).2
      simp [at_, Worker.isAtWork] at free
    · rintro package handler ⟨⟩
      exact routed
  | @miss package at_ unrouted =>
    obtain rfl := rounds.skips_eq_nil (by simp [at_, Worker.isAtWork])
    simp only [at_, Worker.begun, List.append_nil] at work
    refine ⟨⟨dispatches ++ [.missed package], [], ?_, ?_, by simp, by simp⟩, by simp⟩
    · simp [work, Signal.work, Worker.begun, Round.signals]
    · simpa [or_imp, forall_and, Round.Follows, unrouted] using rounds.follows
  | @finish package handler verdict at_ =>
    obtain rfl := rounds.skips_eq_nil (by simp [at_, Worker.isAtWork])
    have routed := service.routed package handler at_
    simp only [at_, Worker.begun, List.append_nil] at work
    refine ⟨⟨dispatches ++ [.served package verdict], [], ?_, ?_, by simp, by simp⟩, by simp⟩
    · simp [work, Signal.work, Worker.begun, Round.signals]
    · simpa [or_imp, forall_and, Round.Follows, routed] using rounds.follows
  | stop at_ =>
    simp only [at_, Worker.begun] at work
    refine ⟨⟨dispatches, skips, ?_, rounds.follows, rounds.skipping, ?_⟩, by simp⟩
    · simpa [Worker.begun] using work
    · exact fun some => ⟨(rounds.closing some).1, rfl⟩
  | meetEnd | meetFault | leave | abandon | reject | fault =>
    refine service.still (by simp [Signal.work]) ?_ ?_ ?_
    · rw [endReading_eq]
    · rw [endReading_eq]
    · exact fun closing => cancelled_endReading _ _ closing
  | join | cancel => exact service.still (by simp [Signal.work]) rfl rfl (fun _ => rfl)
  | aside _ same =>
    have idle : workIn more = [] :=
      flatMap_outward (by rintro ⟨⟩ <;> simp [Signal.isOutward, Signal.work]) same.outward
    exact service.still idle same.plan same.worker (fun closing => by rw [same.cancelled, closing])
  | _ => exact service.still (by simp [Signal.work]) rfl rfl id

/-- Signals of the work are found in the record of the work. -/
theorem flatMap_workIn {pick : Signal → List α}
    (within : ∀ signal : Signal, signal.work.flatMap pick = pick signal) (signals : List Signal) :
    (workIn signals).flatMap pick = signals.flatMap pick := by
  rw [List.flatMap_assoc]
  exact congrArg (signals.flatMap ·) (funext within)

/-- What one kind of round gives once is given by the rounds of that kind and the one in hand. -/
theorem Rounds.picked {pick : Signal → List Package} {dispatches skips : List Round}
    (rounds : Rounds session signals dispatches skips) (kind : Round → Bool)
    (within : ∀ signal : Signal, signal.work.flatMap pick = pick signal)
    (once : ∀ round : Round,
      round.signals.flatMap pick = if kind round then [round.package] else []) :
    signals.flatMap pick =
      ((dispatches ++ skips).filter kind).map Round.package ++
        session.worker.begun.flatMap pick := by
  rw [← flatMap_workIn within, rounds.work, List.flatMap_append, List.flatMap_assoc,
    funext once]
  generalize dispatches ++ skips = all
  congr 1
  induction all with
  | nil => rfl
  | cons round rest ih => by_cases counted : kind round <;> simp [counted, ih]

/-- The packages taken are those of the rounds, and the one in hand. -/
theorem Rounds.taken {dispatches skips : List Round}
    (rounds : Rounds session signals dispatches skips) :
    takenIn signals = (dispatches ++ skips).map Round.package ++ session.worker.inHand := by
  have hand : session.worker.begun.flatMap Signal.takes = session.worker.inHand := by
    cases session.worker <;> rfl
  have all : takenIn signals = _ :=
    rounds.picked (fun _ => true) (by rintro ⟨⟩ <;> rfl) (by rintro ⟨⟩ <;> rfl)
  rw [all, hand, List.filter_eq_self.mpr (by simp)]

/-- A worker that has stopped has nothing in its hand. -/
theorem Worker.rests_of_gone (gone : session.workerGone = true) :
    session.worker.begun = [] ∧ session.worker.inHand = [] := by
  unfold workerGone at gone
  split at gone
  · rename_i at_
    rw [at_]
    exact ⟨rfl, rfl⟩
  · cases gone

end Courier.Session
