import Courier.Session.State

namespace Courier

namespace Settings

@[simp] theorem violation_eq_nil_iff {violated : Prop} [Decidable violated] {problem : Problem} :
    violation violated problem = [] ↔ ¬ violated := by
  simp [violation]

/-- The limits of a session are kept. The outbound queue has no upper one. -/
structure Session.WithinLimits (session : Settings.Session) : Prop where
  dispatchQueue : session.dispatchQueueLimit ≠ 0 ∧ ¬ 1000000 < session.dispatchQueueLimit
  outboundQueue : session.outboundQueueLimit ≠ 0
  readBuffer : ¬ session.readBufferSize < 64 ∧ ¬ 16777216 < session.readBufferSize
  shutdown : ¬ session.shutdownTimeout.toMillis < 10 ∧ ¬ 60 < session.shutdownTimeout.seconds

/-- A lower limit is looked at first, so that at most one of the two is reported. -/
private theorem either_eq_nil_iff {low high : Prop} [Decidable low] [Decidable high]
    {first second : Problem} :
    (if low then [first] else violation high second) = [] ↔ ¬ low ∧ ¬ high := by
  by_cases below : low <;> simp [below]

theorem Session.problems_eq_nil_iff {session : Settings.Session} :
    session.problems = [] ↔ session.WithinLimits := by
  simp only [Session.problems, List.append_eq_nil_iff, either_eq_nil_iff, violation_eq_nil_iff]
  constructor
  · rintro ⟨⟨⟨dispatch, outbound⟩, buffer⟩, shutdown⟩
    exact ⟨dispatch, outbound, buffer, shutdown⟩
  · rintro ⟨dispatch, outbound, buffer, shutdown⟩
    exact ⟨⟨⟨dispatch, outbound⟩, buffer⟩, shutdown⟩

theorem checkSession_eq_ok_iff_problems {settings : Settings} :
    settings.checkSession = .ok () ↔
      settings.framing.problems ++ settings.session.problems = [] := by
  rw [checkSession]
  split
  · rename_i none
    simp [none]
  · rename_i some
    simpa using some

theorem checkSession_eq_ok_iff {settings : Settings} :
    settings.checkSession = .ok () ↔
      settings.framing.maxBodyLength ≠ 0 ∧ settings.session.WithinLimits := by
  simp only [checkSession_eq_ok_iff_problems, List.append_eq_nil_iff, Framing.problems,
    violation_eq_nil_iff, Session.problems_eq_nil_iff, ne_eq]

theorem checkSession_of_check {settings : Settings} (checked : settings.check = .ok ()) :
    settings.checkSession = .ok () := by
  unfold check at checked
  split at checked
  · rename_i none
    simp only [problems, List.append_eq_nil_iff] at none
    obtain ⟨⟨⟨framing, session⟩, -⟩, -⟩ := none
    simp [checkSession, framing, session]
  · cases checked

end Settings

theorem Duration.toMillis_le_toMillisUp (duration : Duration) :
    duration.toMillis ≤ duration.toMillisUp := by
  simp only [toMillis, toMillisUp]
  omega

namespace Session

variable {Handler : Type} {id : UInt64} {routes : Route.Table Handler} {settings : Settings}
  {plan : Plan Handler}

theorem Plan.ofSettings_eq_ok_iff :
    Plan.ofSettings id routes settings = .ok plan ↔
      settings.checkSession = .ok () ∧ plan = {
        id
        routes
        missPolicy := settings.dispatch.missPolicy
        bodyLimit := settings.framing.maxBodyLength
        queueLimit := settings.session.dispatchQueueLimit.toNat
        outboundLimit := settings.session.outboundQueueLimit.toNat
        readSize := settings.session.readBufferSize.toNat
        grace := settings.session.shutdownTimeout.toMillisUp } := by
  cases checked : settings.checkSession with
  | error fault => simp [Plan.ofSettings, checked, bind, Except.bind]
  | ok => simp [Plan.ofSettings, checked, bind, Except.bind, pure, Except.pure, eq_comm]

theorem Plan.grace_pos (accepted : Plan.ofSettings id routes settings = .ok plan) :
    0 < plan.grace := by
  obtain ⟨checked, rfl⟩ := Plan.ofSettings_eq_ok_iff.mp accepted
  have long := (Settings.checkSession_eq_ok_iff.mp checked).2.shutdown.1
  have rounded := settings.session.shutdownTimeout.toMillis_le_toMillisUp
  show 0 < settings.session.shutdownTimeout.toMillisUp
  omega

theorem makeQueue_eq_ok_iff (length : Nat) :
    makeQueue length = .ok () ↔ 0 < length ∧ length ≤ largestQueue := by
  unfold makeQueue
  split
  · rename_i empty
    simp [empty]
  · rename_i some
    split
    · rename_i long
      simp [Nat.not_le.mpr long]
    · rename_i short
      simp [Nat.pos_of_ne_zero some, Nat.le_of_not_lt short]

/-- A session starts if both queues can be made, empty and with nothing read. -/
theorem start_eq_ok_iff {start : Session Handler} {pipe : Nat} : plan.start pipe = .ok start ↔
    (0 < plan.queueLimit ∧ plan.queueLimit ≤ largestQueue ∧
        0 < plan.outboundLimit ∧ plan.outboundLimit ≤ largestQueue) ∧
      start = {
        plan
        decoder := .ofLimit plan.bodyLimit
        input := { capacity := pipe }
        output := { capacity := pipe } } := by
  unfold Plan.start
  cases outbound : makeQueue plan.outboundLimit with
  | error panic =>
    have unsized := mt (makeQueue_eq_ok_iff plan.outboundLimit).mpr (by simp [outbound])
    exact ⟨nofun, fun ⟨⟨_, _, sized⟩, _⟩ => absurd sized unsized⟩
  | ok =>
    obtain ⟨some, few⟩ := (makeQueue_eq_ok_iff plan.outboundLimit).mp outbound
    cases dispatch : makeQueue plan.queueLimit with
    | error panic =>
      have unsized := mt (makeQueue_eq_ok_iff plan.queueLimit).mpr (by simp [dispatch])
      exact ⟨nofun, fun ⟨⟨low, high, _⟩, _⟩ => absurd ⟨low, high⟩ unsized⟩
    | ok =>
      obtain ⟨low, high⟩ := (makeQueue_eq_ok_iff plan.queueLimit).mp dispatch
      constructor
      · intro opened
        cases opened
        exact ⟨⟨low, high, some, few⟩, rfl⟩
      · rintro ⟨-, rfl⟩
        rfl

/-- A session under checked settings starts exactly if a queue can be made as long as the outbound
queue is to be, and otherwise whoever starts it dies. The check limits the dispatch queue to less
than that, and the outbound queue only from below. -/
theorem starts_iff_outbound_queue_possible
    (accepted : Plan.ofSettings id routes settings = .ok plan) (pipe : Nat) :
    (0 < plan.queueLimit ∧ plan.queueLimit ≤ largestQueue) ∧ 0 < plan.outboundLimit ∧
      ((∃ session, plan.start pipe = .ok session) ↔
        settings.session.outboundQueueLimit.toNat ≤ largestQueue) ∧
      (largestQueue < settings.session.outboundQueueLimit.toNat →
        plan.start pipe =
          .error (.overlongQueue settings.session.outboundQueueLimit.toNat)) := by
  obtain ⟨checked, rfl⟩ := Plan.ofSettings_eq_ok_iff.mp accepted
  obtain ⟨-, within⟩ := Settings.checkSession_eq_ok_iff.mp checked
  obtain ⟨some, few⟩ := within.dispatchQueue
  have nonzero := within.outboundQueue
  simp only [UInt64.lt_iff_toNat_lt, ne_eq, ← UInt64.toNat_inj] at some few nonzero
  have million : (1000000 : UInt64).toNat = 1000000 := rfl
  have zero : (0 : UInt64).toNat = 0 := rfl
  rw [million] at few
  rw [zero] at some nonzero
  have dispatch : 0 < settings.session.dispatchQueueLimit.toNat ∧
      settings.session.dispatchQueueLimit.toNat ≤ largestQueue := by
    simp only [largestQueue]
    omega
  have outbound : 0 < settings.session.outboundQueueLimit.toNat := by omega
  refine ⟨dispatch, outbound, ⟨?_, fun possible => ?_⟩, fun long => ?_⟩
  · rintro ⟨session, opened⟩
    exact (start_eq_ok_iff.mp opened).1.2.2.2
  · exact ⟨_, start_eq_ok_iff.mpr ⟨⟨dispatch.1, dispatch.2, outbound, possible⟩, rfl⟩⟩
  · simp [Plan.start, makeQueue, Nat.ne_of_gt outbound, long, bind, Except.bind]

/-- All limits of a session at their upper ends, with an outbound queue of this length. -/
def spaciousSettings (outbound : UInt64) : Settings where
  session := {
    dispatchQueueLimit := 1000000
    outboundQueueLimit := outbound
    readBufferSize := 16777216
    shutdownTimeout := .ofParts 60 999999999 }

theorem starts_with_longest_outbound_queue :
    ∃ plan : Plan Unit,
      Plan.ofSettings 1 { policy := .idAndKind } (spaciousSettings 2305843009213693951) =
          .ok plan ∧
        ∃ session, plan.start 64 = .ok session := by
  have accepted : Plan.ofSettings 1 ({ policy := .idAndKind } : Route.Table Unit)
      (spaciousSettings 2305843009213693951) = .ok _ := rfl
  refine ⟨_, accepted, ?_⟩
  obtain ⟨-, -, starts, -⟩ := starts_iff_outbound_queue_possible accepted 64
  exact starts.mpr (by decide)

/-- One package more, and the settings pass their check although no queue can be made so long: the
start of a session is a panic. -/
theorem checked_settings_fail_to_start :
    (spaciousSettings 2305843009213693952).checkSession = .ok () ∧
      ∃ plan : Plan Unit,
        Plan.ofSettings 1 { policy := .idAndKind } (spaciousSettings 2305843009213693952) =
            .ok plan ∧
          ∀ pipe, plan.start pipe = .error (.overlongQueue 2305843009213693952) :=
  ⟨rfl, _, rfl, fun _ => rfl⟩

end Session
end Courier
