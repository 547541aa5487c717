import Courier.Proofs.Session.Ending
import Courier.Proofs.Session.Tally

namespace Courier.Session

open Courier.Frame (scan scan_append_oversized scan_short scan_wire)

variable {Handler : Type} {start session next : Session Handler} {moves : List Move} {move : Move}
  {signals more : List Signal} {plan : Plan Handler} {pipe : Nat}

structure Drained (session : Session Handler) : Prop where
  stopped : session.hasStoppedReading = true
  empty : session.queue = []
  weighed : ∀ package, session.worker ≠ .weighing package

/-- Nobody tells the session to close before its queue is drained. -/
def Undisturbed (start : Session Handler) (moves : List Move) : Prop :=
  ∀ earlier later session signals, moves = earlier ++ .outer .cancel :: later →
    start.play earlier = some (session, signals) → session.Drained

theorem Undisturbed.earlier (undisturbed : Undisturbed start (moves ++ [move])) :
    Undisturbed start moves := by
  intro earlier later session signals split played
  exact undisturbed earlier (later ++ [move]) session signals (by simp [split]) played

/-- The session has not closed on anything that is still to be dispatched. -/
structure Unhurried (session : Session Handler) (signals : List Signal) : Prop where
  cancelled : session.cancelled = true → session.Drained
  unskipped : skippedIn signals = []
  stays : session.reader ≠ .ended .localClose

theorem unhurried_start (opened : plan.start pipe = .ok start) : Unhurried start [] := by
  obtain ⟨-, rfl⟩ := start_eq_ok_iff.mp opened
  exact ⟨nofun, rfl, nofun⟩

theorem Unhurried.going (unhurried : Unhurried session signals)
    (going : session.hasStoppedReading = false) : session.cancelled = false := by
  cases told : session.cancelled with
  | false => rfl
  | true =>
    have stopped := (unhurried.cancelled told).stopped
    rw [going] at stopped
    cases stopped

theorem Unhurried.change (unhurried : Unhurried session signals) (coherent : Coherent session)
    (change : Change session move next more)
    (undisturbed : move = .outer .cancel → session.Drained)
    (sound : ∀ fault, next.reader ≠ .ended (.failed fault)) :
    Unhurried next (signals ++ more) := by
  have drained := unhurried.cancelled
  have unskipped := unhurried.unskipped
  have stays := unhurried.stays
  cases change with
  | look at_ | await at_ | resume at_ | read at_ | wait at_ | store at_ | hold at_ | release at_ =>
    have going := unhurried.going (by simp [hasStoppedReading, at_])
    exact ⟨by simp [going], by simpa [Signal.skips] using unskipped, by simp [at_]⟩
  | meetEnd at_ =>
    have going := unhurried.going (by simp [hasStoppedReading, at_])
    rw [endReading_eq]
    exact ⟨by simp [going], by simpa using unskipped, by simp⟩
  | meetFault | reject | fault =>
    rw [endReading_eq] at sound
    exact absurd rfl (sound _)
  | leave cancelled at_ =>
    have going := unhurried.going (by rcases at_ with at_ | at_ <;> simp [hasStoppedReading, at_])
    rw [cancelled] at going
    cases going
  | abandon cancelled at_ =>
    have going := unhurried.going (by simp [hasStoppedReading, at_])
    rw [cancelled] at going
    cases going
  | take _ first =>
    refine ⟨?_, by simpa [Signal.skips] using unskipped, stays⟩
    intro told
    have empty := (drained told).empty
    rw [first] at empty
    cases empty
  | skip at_ cancelled => exact absurd at_ ((drained cancelled).weighed _)
  | assign _ going => exact ⟨by simp [going], by simpa using unskipped, stays⟩
  | start | miss | finish | stop =>
    refine ⟨?_, by simpa [Signal.skips] using unskipped, stays⟩
    exact fun told => ⟨(drained told).stopped, (drained told).empty, by simp⟩
  | join gone =>
    obtain ⟨stopped, empty⟩ := coherent.served gone
    refine ⟨fun _ => ⟨stopped, empty, ?_⟩, by simpa using unskipped, stays⟩
    intro package at_
    rw [workerGone, show session.worker = _ from at_] at gone
    cases gone
  | cancel =>
    have now := undisturbed rfl
    exact ⟨fun _ => ⟨now.stopped, now.empty, now.weighed⟩, by simpa [Signal.skips] using unskipped,
      stays⟩
  | aside _ same =>
    have noSkips : more.flatMap Signal.skips = [] :=
      flatMap_outward (by rintro ⟨⟩ <;> simp [Signal.isOutward, Signal.skips]) same.outward
    refine ⟨?_, by simpa [noSkips] using unskipped, by rw [same.reader]; exact stays⟩
    intro told
    rw [same.cancelled] at told
    obtain ⟨stopped, empty, weighed⟩ := drained told
    exact ⟨by simpa [hasStoppedReading, same.reader] using stopped, by rw [same.queue, empty],
      by rw [same.worker]; exact weighed⟩
  | _ =>
    refine ⟨?_, by simpa [Signal.skips] using unskipped, stays⟩
    exact fun told => ⟨(drained told).stopped, (drained told).empty, (drained told).weighed⟩

theorem Change.stays_failed (change : Change session move next more) {fault : Fault}
    (failed : session.reader = .ended (.failed fault)) : next.reader = .ended (.failed fault) := by
  cases change with
  | aside _ same => rw [same.reader, failed]
  | leave _ at_ => rcases at_ with at_ | at_ <;> simp [failed] at at_
  | _ => simp_all

theorem Trace.unhurried (opened : plan.start pipe = .ok start)
    (trace : Trace start session moves signals) (undisturbed : Undisturbed start moves)
    (sound : ∀ fault, session.reader ≠ .ended (.failed fault)) : Unhurried session signals := by
  refine (coherent_start opened).preserved (fun session moves signals =>
    Undisturbed start moves → (∀ fault, session.reader ≠ .ended (.failed fault)) →
      Unhurried session signals) (fun _ _ => unhurried_start opened) ?_ trace undisturbed sound
  intro session next moves signals more move trace coherent before change undisturbed sound
  have unhurried := before undisturbed.earlier
    (fun fault failed => sound fault (change.stays_failed failed))
  refine unhurried.change coherent change ?_ sound
  rintro rfl
  exact undisturbed moves [] session signals rfl (trace_iff_play.mp trace)

/-- A reader fails only on a transport with faults or at an oversized header. -/
theorem Trace.unfailed (opened : plan.start pipe = .ok start)
    (trace : Trace start session moves signals)
    (faultless : ∀ reason, Move.reader (.meetFault reason) ∉ moves)
    (unmarred : (scan plan.bodyLimit (sentIn moves)).2 = .incomplete) (fault : Fault) :
    session.reader ≠ .ended (.failed fault) := by
  intro failed
  have grounds := trace.grounds opened failed
  cases grounds with
  | oversized stop =>
    rw [(trace.origin opened).bytes, scan_append_oversized _ stop, stop] at unmarred
    cases unmarred
  | io met => exact faultless _ met

/-- A session that ends undisturbed has met the end of the stream, and its worker has taken every
package of it. -/
theorem Trace.drained (opened : plan.start pipe = .ok start)
    (trace : Trace start session moves signals) {how : End} (ended : session.end? = some how)
    (undisturbed : Undisturbed start moves)
    (sound : ∀ fault, session.reader ≠ .ended (.failed fault)) :
    how = .peerClosed ∧ session.Drained ∧ skippedIn signals = [] ∧
      receivedIn signals = sentIn moves ∧ takenIn signals = decodedIn signals ∧
      decodedIn signals = (scan plan.bodyLimit (sentIn moves)).1 := by
  obtain ⟨drained, unskipped, stays⟩ := trace.unhurried opened undisturbed sound
  have inward := trace.inward opened
  obtain ⟨at_, cancelled⟩ := reader_of_end? inward.coherent ended
  have grounds := trace.grounds opened at_
  obtain ⟨rfl, -, intake, flow, -⟩ := inward
  cases grounds with
  | localClose => exact absurd at_ stays
  | oversized | io => exact absurd at_ (sound _)
  | peerClosed met finished whole =>
    have knows := intake.reader
    rw [at_] at knows
    have undropped : abandonedIn signals = [] := by
      rcases flow.dropped with none | ⟨left, -⟩
      · exact none
      · exact absurd left stays
    have order := flow.order
    rw [(drained cancelled).empty, undropped, at_] at order
    refine ⟨rfl, drained cancelled, unskipped, whole, by simpa [Reader.held] using order, ?_⟩
    rw [← whole]
    exact intake.accounts.packages_eq knows.1

/-- A drained session whose worker is not at work has dispatched all that it decoded. -/
theorem Rounds.complete {dispatches : List Round} (rounds : Rounds session signals dispatches [])
    (drained : session.Drained) (settled : session.worker.isAtWork = false) :
    workIn signals = dispatches.flatMap Round.signals ∧
      takenIn signals = dispatches.map Round.package := by
  have work := rounds.work
  have taken := rounds.taken
  have weighed := drained.weighed
  cases at_ : session.worker with
  | idle | stopped => simpa [at_, Worker.begun, Worker.inHand] using And.intro work taken
  | weighing package => exact absurd at_ (weighed package)
  | assigned | handling => simp [at_, Worker.isAtWork] at settled

end Courier.Session
