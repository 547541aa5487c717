import Courier.Proofs.Session.Order

namespace Courier.Session

open Courier.Frame (Decoder)

variable {Handler : Type} {start session next : Session Handler} {moves : List Move} {move : Move}
  {signals more : List Signal} {plan : Plan Handler} {pipe : Nat}

/-- The most bytes that a decoder holds that cannot go on, and one more. -/
def Plan.residue (plan : Plan Handler) : Nat :=
  max Header.size plan.bodyLimit.toNat

/-- A reader that reads has room for a package, and a decoder that gives none. -/
theorem Intake.drained (intake : Intake session signals) (at_ : session.reader = .reading) :
    session.decoder.pull = (session.decoder, .ok none) ∧
      session.decoder.pending < session.plan.residue := by
  have knows := intake.reader
  simp only [at_, Reader.Knows] at knows
  obtain ⟨rests, sound⟩ := knows
  obtain ⟨tail, -, faces⟩ := intake.accounts.faces
  exact ⟨faces.pull_of_rests rests sound, (faces.remainder rests).pending_lt⟩

structure Pressure (session : Session Handler) : Prop where
  pending : session.decoder.pending < session.plan.residue + session.plan.readSize
  room : session.reader = .reading → session.hasRoom = true

theorem pressure_start (opened : plan.start pipe = .ok start) : Pressure start := by
  obtain ⟨-, rfl⟩ := start_eq_ok_iff.mp opened
  refine ⟨?_, nofun⟩
  apply Nat.lt_of_lt_of_le _ (Nat.le_add_right _ _)
  exact Nat.lt_of_lt_of_le (Nat.succ_pos 4) (Nat.le_max_left _ _)

theorem Pressure.endReading (pressure : Pressure session) (how : End) :
    Pressure (session.endReading how) := by
  rw [endReading_eq]
  exact ⟨pressure.pending, nofun⟩

theorem Pressure.pulled (pressure : Pressure session) {decoder : Decoder} {pull : Frame.Pull}
    (pulled : session.decoder.pull = (decoder, pull)) :
    decoder.pending < session.plan.residue + session.plan.readSize := by
  have less := session.decoder.pending_pull
  rw [pulled] at less
  exact Nat.lt_of_le_of_lt less pressure.pending

theorem Pressure.change (pressure : Pressure session) (intake : Intake session signals)
    (change : Change session move next more) : Pressure next := by
  have pending := pressure.pending
  cases change with
  | look _ room | resume _ room => exact ⟨pending, fun _ => room⟩
  | await | release => exact ⟨pending, by simp⟩
  | @read count at_ _ few =>
    refine ⟨?_, by simp⟩
    have held := (intake.drained at_).2
    have pushed : (session.decoder.push (session.input.content.take count)).pending ≤
        session.decoder.pending + count := by
      unfold Decoder.push
      split
      · exact Nat.le_add_right _ _
      · simp only [Decoder.pending, List.length_append, List.length_take]
        omega
    show (session.decoder.push (session.input.content.take count)).pending <
      session.plan.residue + session.plan.readSize
    omega
  | wait _ pulled | hold _ pulled => exact ⟨pressure.pulled pulled, by simp⟩
  | store at_ pulled =>
    refine ⟨pressure.pulled pulled, fun reading => ?_⟩
    rw [show session.reader = _ from reading] at at_
    cases at_
  | @reject decoder _ _ at_ pulled | @fault decoder _ at_ pulled =>
    have same : Pressure { session with decoder } := by
      refine ⟨pressure.pulled pulled, fun reading => ?_⟩
      rw [show session.reader = _ from reading] at at_
      cases at_
    exact same.endReading _
  | meetEnd | meetFault | leave | abandon => exact pressure.endReading _
  | take _ first =>
    refine ⟨pending, fun reading => ?_⟩
    have room := pressure.room reading
    simp only [hasRoom, first, List.length_cons, decide_eq_true_eq] at room ⊢
    omega
  | aside _ same =>
    refine ⟨by rw [same.decoder, same.plan]; exact pending, fun reading => ?_⟩
    rw [same.reader] at reading
    have room := pressure.room reading
    rw [hasRoom, same.queue, same.plan]
    exact room
  | _ => exact ⟨pending, pressure.room⟩

theorem Trace.pressure (opened : plan.start pipe = .ok start)
    (trace : Trace start session moves signals) : Pressure session := by
  refine (coherent_start opened).preserved (fun session _ _ => Pressure session)
    (pressure_start opened) ?_ trace
  intro session next moves signals more move trace _ pressure change
  exact pressure.change (trace.inward opened).intake change

theorem Flow.in_hand (flow : Flow session signals) :
    (session.reader.held ++ abandonedIn signals).length ≤ 1 := by
  rcases flow.dropped with none | ⟨left, -, one⟩
  · rw [none, List.append_nil]
    cases session.reader <;> simp [Reader.held]
  · simp [left, Reader.held, one]

theorem Flow.length_decoded (flow : Flow session signals) (coherent : Coherent session) :
    (decodedIn signals).length ≤
      (takenIn signals).length + session.plan.queueLimit + 1 := by
  have total := congrArg List.length flow.order
  have bounded := coherent.bounded
  have hand := flow.in_hand
  simp only [List.length_append] at total hand
  omega

theorem content_endReading (session : Session Handler) (how : End) :
    (session.endReading how).input.content = session.input.content := by
  rw [endReading_eq]
  cases session.isClosed <;> rfl

/-- Bytes are taken from the transport by a reader that reads, no more at once than it may. -/
theorem Change.takes (change : Change session move next more) :
    receivedIn more = [] ∧ session.input.content <+: next.input.content ∨
      session.reader = .reading ∧ (receivedIn more).length ≤ session.plan.readSize := by
  cases change with
  | read at_ _ few =>
    refine .inr ⟨at_, ?_⟩
    simp only [receivedIn, List.flatMap_cons, Signal.bytes, List.flatMap_nil, List.append_nil,
      List.length_take]
    omega
  | meetEnd | meetFault | leave | abandon | reject | fault =>
    exact .inl ⟨by simp [Signal.bytes], by simp [content_endReading]⟩
  | peerWrite => exact .inl ⟨rfl, List.prefix_append _ _⟩
  | aside _ same => exact .inl ⟨same.noBytes, by simp [same.content]⟩
  | _ => exact .inl ⟨by simp [Signal.bytes], List.prefix_rfl⟩

/-- Whatever the peer sends and the handlers do, the queue keeps its limit and the reader holds one
more package at most. A read is under way only while the queue has room and the decoder has given
all it can; while the queue is full nothing is taken from the transport. What the decoder buffers
stays below what it may keep at a read and what one read brings. -/
theorem full_queue_holds_back_peer (opened : plan.start pipe = .ok start)
    (run : Run start session signals) :
    session.queue.length ≤ plan.queueLimit ∧
      session.reader.held.length ≤ 1 ∧
      (decodedIn signals).length ≤ (takenIn signals).length + plan.queueLimit + 1 ∧
      (session.reader = .reading →
        session.queue.length < plan.queueLimit ∧
          session.decoder.pull = (session.decoder, .ok none) ∧
          session.decoder.pending < max Header.size plan.bodyLimit.toNat) ∧
      (∀ move next more, session.step move = some (next, more) →
        (receivedIn more ≠ [] →
          session.reader = .reading ∧ (receivedIn more).length ≤ plan.readSize) ∧
        (plan.queueLimit ≤ session.queue.length →
          receivedIn more = [] ∧ session.input.content <+: next.input.content)) ∧
      session.decoder.pending < max Header.size plan.bodyLimit.toNat + plan.readSize := by
  obtain ⟨moves, trace⟩ := run.trace
  have pressure := trace.pressure opened
  obtain ⟨rfl, coherent, intake, flow, -⟩ := trace.inward opened
  have room : session.reader = .reading → session.queue.length < session.plan.queueLimit := by
    intro reading
    simpa [hasRoom] using pressure.room reading
  refine ⟨coherent.bounded, ?_, flow.length_decoded coherent, ?_, ?_, pressure.pending⟩
  · have hand := flow.in_hand
    rw [List.length_append] at hand
    omega
  · intro reading
    exact ⟨room reading, intake.drained reading⟩
  · intro move next more taken
    rcases (coherent.changed taken).takes with ⟨silent, kept⟩ | ⟨reading, few⟩
    · exact ⟨fun some => absurd silent some, fun _ => ⟨silent, kept⟩⟩
    · refine ⟨fun _ => ⟨reading, few⟩, fun full => ?_⟩
      exact absurd (room reading) (Nat.not_lt_of_le full)

/-- With one package at its handler, one in the queue and one held, the reader has stopped in the
midst of a chunk, and more is to be read. -/
def stallingMoves : List Move :=
  [.outer (.peerWrite [0, 0, 0, 7, 1, 0, 1, 0, 8, 1, 65, 0, 0, 0, 9, 1, 0, 2]), .reader .check,
    .reader (.read 18), .reader .pull, .worker .take, .worker .weigh, .worker .start,
    .reader .pull, .reader .pull, .outer (.peerWrite [0])]

theorem full_queue_holds_back_peer_in_midst_of_chunk :
    ∃ (session : Session Unit) (signals : List Signal),
      narrowPlan.start 64 = .ok narrowStart ∧ Run narrowStart session signals ∧
        session.queue.length = narrowPlan.queueLimit ∧
        session.reader.held = [⟨⟨0, 9, 1⟩, []⟩] ∧ session.input.content = [0] ∧
        session.decoder.pending < max Header.size narrowPlan.bodyLimit.toNat + 64 ∧
        ∀ move next more, session.step move = some (next, more) →
          receivedIn more = [] ∧ [0] <+: next.input.content := by
  have opened : narrowPlan.start 64 = .ok narrowStart := rfl
  obtain ⟨session, signals, played, full, held, content⟩ :
      ∃ (session : Session Unit) (signals : List Signal),
        narrowStart.play stallingMoves = some (session, signals) ∧
        session.queue.length = narrowPlan.queueLimit ∧
        session.reader.held = [⟨⟨0, 9, 1⟩, []⟩] ∧ session.input.content = [0] :=
    ⟨_, _, rfl, rfl, rfl, rfl⟩
  have run := (trace_iff_play.mpr played).run
  obtain ⟨-, -, -, -, moves, pending⟩ := full_queue_holds_back_peer opened run
  refine ⟨session, signals, opened, run, full, held, content, pending, ?_⟩
  intro move next more taken
  have nothing := (moves move next more taken).2 (Nat.le_of_eq full.symm)
  rw [content] at nothing
  exact nothing

end Courier.Session
