import Courier.Proofs.Session.Coherence

/-! What one move can change on the way of a package from its sender to the transport, and of the
time. The counterpart of the changes on the way in: reader, worker and close stand aside from it. -/
namespace Courier.Session

variable {Handler : Type}

/-- Nothing has changed on the way out, but that the transport may have been let go of. -/
structure Apart (session next : Session Handler) (more : List Signal) : Prop where
  plan : next.plan = session.plan
  outbound : next.outbound = session.outbound
  writer : next.writer = session.writer
  content : next.output.content = session.output.content
  closed : next.output.closed = true → session.output.closed = true ∨ session.isClosed = true
  stays : session.output.closed = true → next.output.closed = true
  now : next.now = session.now
  inward : ∀ signal ∈ more, signal.isOutward = false

/-- The moves of a session as senders, the writer, the peer that reads and the clock see them. -/
inductive Egress (session : Session Handler) : Move → Session Handler → List Signal → Prop where
  | send {package : Package} (checked : package.check session.plan.bodyLimit = .ok ())
      (going : session.isClosed = false)
      (room : session.outbound.length < session.plan.outboundLimit) :
      Egress session (.outer (.send package))
        { session with outbound := session.outbound ++ [package] } [.queued package]
  | pick {package : Package} {outbound : List Package} {bytes : Bytes}
      (at_ : session.writer = .idle) (first : session.outbound = package :: outbound)
      (encoded : package.encode session.plan.bodyLimit = .ok bytes) :
      Egress session (.writer .pick)
        { session with outbound, writer := .writing package bytes } []
  | refuse {package : Package} {outbound : List Package} {fault : Fault}
      (at_ : session.writer = .idle) (first : session.outbound = package :: outbound)
      (refused : package.encode session.plan.bodyLimit = .error fault) :
      Egress session (.writer .pick) session.stopWriting [.writeFailed]
  | write {package : Package} {rest : Bytes} {count : Nat}
      (at_ : session.writer = .writing package rest) (going : session.output.closed = false)
      (left : rest.drop count ≠ []) :
      Egress session (.writer (.write count))
        { session with
          output := session.output.write (rest.take count)
          writer := .writing package (rest.drop count) }
        [.wrote (rest.take count)]
  | complete {package : Package} {rest : Bytes} {count : Nat}
      (at_ : session.writer = .writing package rest) (going : session.output.closed = false)
      (whole : rest.drop count = []) :
      Egress session (.writer (.write count))
        { session with output := session.output.write (rest.take count), writer := .idle }
        [.wrote (rest.take count), .sent package]
  | fail {package : Package} {rest : Bytes} (at_ : session.writer = .writing package rest)
      (closed : session.output.closed = true) :
      Egress session (.writer .meetFault) session.stopWriting [.writeFailed]
  | retire (at_ : session.writer = .idle) (empty : session.outbound = [])
      (cancelled : session.cancelled = true) :
      Egress session (.writer .retire) { session with writer := .retiring } []
  | stop (at_ : session.writer = .idle) (empty : session.outbound = [])
      (cancelled : session.cancelled = true) : Egress session (.writer .stop) session.stopWriting []
  | stopLate (at_ : session.writer = .retiring) :
      Egress session (.writer .stop) session.stopWriting []
  | leave (at_ : session.writer = .idle) (empty : session.outbound = [])
      (gone : session.workerGone = true) : Egress session (.writer .leave) session.stopWriting []
  | peerRead {count : Nat} :
      Egress session (.outer (.peerRead count))
        { session with output := (session.output.read count).2 } []
  | breakOutput :
      Egress session (.outer .breakOutput) { session with output := session.output.close } []
  | peerDrop :
      Egress session (.outer .peerDrop)
        { session with input := session.input.close, output := session.output.close } []
  | pass {millis : Nat} :
      Egress session (.outer (.pass millis)) { session with now := session.now + millis } []
  | apart {move : Move} {next : Session Handler} {more : List Signal}
      (inward : move.isAside = false) (same : Apart session next more) :
      Egress session move next more

variable {session next : Session Handler} {move : Move} {more : List Signal}

private theorem egress_of_stepWriter {move : WriterMove}
    (taken : session.stepWriter move = some (next, more)) :
    Egress session (.writer move) next more := by
  cases move with
  | pick =>
    simp only [stepWriter] at taken
    split at taken <;> try cases taken
    rename_i at_ first
    split at taken <;> cases taken
    · rename_i encoded
      exact .pick at_ first encoded
    · rename_i refused
      exact .refuse at_ first refused
  | write count =>
    simp only [stepWriter] at taken
    split at taken <;> try cases taken
    rename_i at_
    split at taken <;> try cases taken
    rename_i possible
    simp only [Bool.and_eq_true, Bool.not_eq_true'] at possible
    obtain ⟨⟨⟨going, -⟩, -⟩, -⟩ := possible
    split at taken <;> cases taken
    · rename_i whole
      exact .complete at_ going whole
    · rename_i left
      exact .write at_ going left
  | meetFault =>
    simp only [stepWriter] at taken
    split at taken <;> try cases taken
    rename_i at_
    split at taken <;> cases taken
    rename_i closed
    exact .fail at_ closed
  | retire =>
    simp only [stepWriter] at taken
    split at taken <;> try cases taken
    rename_i at_ empty
    split at taken <;> cases taken
    rename_i cancelled
    exact .retire at_ empty cancelled
  | stop =>
    simp only [stepWriter] at taken
    split at taken
    · rename_i at_ empty
      split at taken <;> cases taken
      rename_i cancelled
      exact .stop at_ empty cancelled
    · rename_i at_
      cases taken
      exact .stopLate at_
    · cases taken
  | leave =>
    simp only [stepWriter] at taken
    split at taken <;> try cases taken
    rename_i at_ empty
    split at taken <;> cases taken
    rename_i gone
    exact .leave at_ empty gone

private theorem egress_of_send {package : Package}
    (taken : session.stepOuter (.send package) = some (next, more)) :
    Egress session (.outer (.send package)) next more := by
  simp only [stepOuter] at taken
  split at taken <;> cases taken
  rename_i accepted
  unfold sending at accepted
  split at accepted
  · cases accepted
  · rename_i checked
    split at accepted
    · cases accepted
    · rename_i going
      split at accepted
      · rename_i room
        exact .send checked (Bool.eq_false_iff.mpr going) room
      · cases accepted

theorem Apart.ofDecoder {decoder : Frame.Decoder}
    (same : Apart { session with decoder } next more) : Apart session next more :=
  ⟨same.plan, same.outbound, same.writer, same.content, same.closed, same.stays, same.now,
    same.inward⟩

theorem apart_endReading (session : Session Handler) (how : End)
    (inward : ∀ signal ∈ more, signal.isOutward = false) :
    Apart session (session.endReading how) more := by
  rw [endReading_eq]
  cases gone : session.isClosed <;> constructor <;> simp_all [Pipe.close]

/-- What changes on the way in leaves the way out as it is. -/
theorem Change.apart (change : Change session move next more) (inward : move.isAside = false)
    (held : move ≠ .outer .peerDrop) : Apart session next more := by
  cases change with
  | meetEnd | meetFault | leave | abandon =>
    exact apart_endReading session _ (by simp [Signal.isOutward])
  | @reject decoder | @fault decoder =>
    exact (apart_endReading { session with decoder } _ (by simp [Signal.isOutward])).ofDecoder
  | peerDrop => exact absurd rfl held
  | aside move_ =>
    rw [inward] at move_
    cases move_
  | _ => constructor <;> simp_all [Signal.isOutward]

theorem Coherent.egress (coherent : Coherent session)
    (taken : session.step move = some (next, more)) : Egress session move next more := by
  have change := coherent.changed taken
  cases move with
  | writer move => exact egress_of_stepWriter taken
  | outer move =>
    cases move with
    | send package => exact egress_of_send taken
    | peerRead count =>
      cases taken
      exact .peerRead
    | breakOutput =>
      cases taken
      exact .breakOutput
    | peerDrop =>
      cases taken
      exact .peerDrop
    | pass millis =>
      cases taken
      exact .pass
    | cancel | peerWrite | peerShut => exact .apart rfl (change.apart rfl nofun)
  | reader | worker | life => exact .apart rfl (change.apart rfl nofun)

/-- Every move in a run of a session is one of these. -/
theorem Trace.egress {start : Session Handler} {moves : List Move} {signals : List Signal}
    {plan : Plan Handler} {pipe : Nat} (opened : plan.start pipe = .ok start)
    (earlier : Trace start session moves signals)
    (taken : session.step move = some (next, more)) : Egress session move next more :=
  ((coherent_start opened).run earlier.run).egress taken

end Courier.Session
