import Courier.Proofs.Session.Intake

namespace Courier.Session

variable {Handler : Type}

/-- The bytes that a move puts into the transport. -/
def Move.bytesSent : Move → Bytes
  | .outer (.peerWrite bytes) => bytes
  | _ => []

/-- All that the peer sent. -/
abbrev sentIn (moves : List Move) : Bytes := moves.flatMap Move.bytesSent

/-- The peer ends its stream, or drops the transport as a whole. -/
def Move.isPeerEnd : Move → Bool
  | .outer .peerShut | .outer .peerDrop => true
  | _ => false

/-- When the peer ended the transport, which was open until then, it had sent `stream`. -/
def PeerEnded (start : Session Handler) (moves : List Move) (stream : Bytes) : Prop :=
  ∃ earlier move later session signals, moves = earlier ++ move :: later ∧
    move.isPeerEnd = true ∧ start.play earlier = some (session, signals) ∧
    session.input.closed = false ∧ sentIn earlier = stream

theorem PeerEnded.silent {start : Session Handler} {moves : List Move} {move : Move}
    (ended : PeerEnded start moves (sentIn moves)) (silent : move.bytesSent = []) :
    PeerEnded start (moves ++ [move]) (sentIn (moves ++ [move])) := by
  obtain ⟨earlier, last, later, session, signals, split, peer, played, going, sent⟩ := ended
  refine ⟨earlier, last, later ++ [move], session, signals, ?_, peer, played, going, ?_⟩
  · simp [split]
  · rw [sent]
    simp [silent]

/-- What brought the reader to its end; one that goes on is told to leave by the owner alone. -/
def Reader.Cause (moves : List Move) (cancelled : Bool) : Reader → Prop
  | .ended .peerClosed => .reader .meetEnd ∈ moves
  | .ended .localClose => .outer .cancel ∈ moves
  | .ended (.failed (.io reason)) => .reader (.meetFault reason) ∈ moves
  | .ended (.failed _) => True
  | _ => cancelled = true → .outer .cancel ∈ moves

theorem Reader.Cause.append {moves : List Move} {cancelled : Bool} {reader : Reader}
    (cause : reader.Cause moves cancelled) (more : List Move) :
    reader.Cause (moves ++ more) cancelled := by
  unfold Reader.Cause at cause ⊢
  split <;> simp_all

theorem Reader.Cause.ended {moves : List Move} {before after : Bool} {how : End}
    (cause : Reader.Cause moves before (.ended how)) : Reader.Cause moves after (.ended how) := by
  cases how with
  | failed fault => cases fault <;> exact cause
  | _ => exact cause

/-- All that was sent has been read or is in the transport, which closes after the peer's end or
the reader's. A reader that met the end has read all that was sent. -/
structure Origin (start session : Session Handler) (moves : List Move) (signals : List Signal) :
    Prop where
  bytes : sentIn moves = receivedIn signals ++ session.input.content
  closed : session.input.closed = true →
    PeerEnded start moves (sentIn moves) ∨ session.hasStoppedReading = true
  whole : session.reader = .ended .peerClosed →
    PeerEnded start moves (sentIn moves) ∧ session.input.closed = true ∧ session.input.content = []
  cause : session.reader.Cause moves session.cancelled

variable {start session next : Session Handler} {moves : List Move} {move : Move}
  {signals more : List Signal}

theorem origin_start {plan : Plan Handler} {pipe : Nat} (opened : plan.start pipe = .ok start) :
    Origin start start [] [] := by
  obtain ⟨-, rfl⟩ := start_eq_ok_iff.mp opened
  constructor <;> simp [Reader.Cause]

theorem Reader.cause_going (going : session.hasStoppedReading = false) {cancelled : Bool} :
    session.reader.Cause moves cancelled ↔ (cancelled = true → .outer .cancel ∈ moves) := by
  unfold hasStoppedReading at going
  cases at_ : session.reader <;> simp_all [Reader.Cause]

theorem Origin.going (origin : Origin start session moves signals) (silent : move.bytesSent = [])
    (bytes : session.input.content = more.flatMap Signal.bytes ++ next.input.content)
    (closed : next.input.closed = session.input.closed)
    (cancelled : next.cancelled = session.cancelled)
    (before : session.hasStoppedReading = false) (after : next.hasStoppedReading = false) :
    Origin start next (moves ++ [move]) (signals ++ more) where
  bytes := by simp [silent, origin.bytes, bytes]
  closed := by
    intro shut
    rw [closed] at shut
    rcases origin.closed shut with peer | stopped
    · exact .inl (peer.silent silent)
    · rw [before] at stopped
      cases stopped
  whole at_ := by simp [hasStoppedReading, at_] at after
  cause := by
    rw [cancelled, Reader.cause_going after, ← Reader.cause_going before]
    exact origin.cause.append _

theorem Origin.ending (origin : Origin start session moves signals) {how : End}
    (silent : move.bytesSent = []) (noBytes : more.flatMap Signal.bytes = [])
    (whole : how = .peerClosed →
      PeerEnded start moves (sentIn moves) ∧ session.input.closed = true ∧
        session.input.content = [])
    (cause : Reader.Cause (moves ++ [move]) true (.ended how)) :
    Origin start (session.endReading how) (moves ++ [move]) (signals ++ more) := by
  rw [endReading_eq]
  constructor
  · cases session.isClosed <;> simp [silent, noBytes, origin.bytes, Pipe.close]
  · exact fun _ => .inr rfl
  · rintro ⟨⟩
    obtain ⟨peer, closed, empty⟩ := whole rfl
    refine ⟨peer.silent silent, ?_⟩
    cases session.isClosed <;> simp [closed, empty, Pipe.close]
  · exact cause.ended

theorem Origin.still (origin : Origin start session moves signals) (silent : move.bytesSent = [])
    (noBytes : more.flatMap Signal.bytes = []) (reader : next.reader = session.reader)
    (content : next.input.content = session.input.content)
    (closed : next.input.closed = true →
      session.input.closed = true ∨ session.hasStoppedReading = true)
    (stays : session.input.closed = true → next.input.closed = true)
    (cause : session.reader.Cause (moves ++ [move]) next.cancelled) :
    Origin start next (moves ++ [move]) (signals ++ more) where
  bytes := by simp [silent, noBytes, content, origin.bytes]
  closed := by
    intro shut
    have stage : next.hasStoppedReading = session.hasStoppedReading := by
      simp [hasStoppedReading, reader]
    rw [stage]
    rcases closed shut with earlier | stopped
    · exact (origin.closed earlier).imp (fun peer => peer.silent silent) id
    · exact .inr stopped
  whole := by
    intro at_
    rw [reader] at at_
    obtain ⟨peer, shut, empty⟩ := origin.whole at_
    exact ⟨peer.silent silent, stays shut, content.trans empty⟩
  cause := by rw [reader]; exact cause

theorem Origin.peerEnd (origin : Origin start session moves signals)
    (trace : Trace start session moves signals) (peer : move.isPeerEnd = true)
    (silent : move.bytesSent = []) :
    PeerEnded start (moves ++ [move]) (sentIn (moves ++ [move])) ∨
      session.hasStoppedReading = true := by
  cases shut : session.input.closed with
  | true => exact (origin.closed shut).imp (fun ended => ended.silent silent) id
  | false =>
    refine .inl ⟨moves, move, [], session, signals, rfl, peer, trace_iff_play.mp trace, shut, ?_⟩
    simp [silent]

theorem Origin.change (origin : Origin start session moves signals)
    (trace : Trace start session moves signals) (coherent : Coherent session)
    (intake : Intake session signals) (change : Change session move next more) :
    Origin start next (moves ++ [move]) (signals ++ more) := by
  have cause := origin.cause
  cases change with
  | look at_ | await at_ | resume at_ | read at_ | wait at_ | store at_ | hold at_ | release at_ =>
    exact origin.going rfl (by simp [Signal.bytes]) rfl rfl (by simp [hasStoppedReading, at_])
      (by simp [hasStoppedReading, at_])
  | meetEnd at_ closed empty =>
    refine origin.ending rfl rfl ?_ (by simp [Reader.Cause])
    intro _
    refine ⟨?_, closed, empty⟩
    rcases origin.closed closed with peer | stopped
    · exact peer
    · simp [hasStoppedReading, at_] at stopped
  | meetFault => exact origin.ending rfl rfl (by simp) (by simp [Reader.Cause])
  | @reject decoder =>
    have same : Origin start { session with decoder } moves signals :=
      ⟨origin.bytes, origin.closed, origin.whole, cause⟩
    exact same.ending rfl (by simp [Signal.bytes]) (by simp) trivial
  | fault at_ pulled other =>
    obtain ⟨declared, same, -⟩ := intake.rejects at_ pulled
    exact absurd same (other _ _)
  | leave cancelled at_ =>
    have going : session.hasStoppedReading = false := by
      rcases at_ with at_ | at_ <;> simp [hasStoppedReading, at_]
    have told := (Reader.cause_going going).mp cause cancelled
    exact origin.ending rfl rfl (by simp) (List.mem_append_left _ told)
  | abandon cancelled at_ =>
    have told := (Reader.cause_going (by simp [hasStoppedReading, at_])).mp cause cancelled
    exact origin.ending rfl (by simp [Signal.bytes]) (by simp) (List.mem_append_left _ told)
  | join gone =>
    obtain ⟨how, at_⟩ := ended_of_hasStoppedReading (coherent.served gone).1
    rw [at_] at cause
    refine origin.still rfl rfl rfl rfl .inl id ?_
    rw [at_]
    exact (cause.append _).ended
  | cancel =>
    refine origin.still rfl (by simp [Signal.bytes]) rfl rfl .inl id ?_
    cases stopped : session.hasStoppedReading with
    | false => exact (Reader.cause_going stopped).mpr (fun _ => by simp)
    | true =>
      obtain ⟨how, at_⟩ := ended_of_hasStoppedReading stopped
      rw [at_] at cause ⊢
      exact (cause.append _).ended
  | peerWrite going =>
    refine ⟨?_, ?_, ?_, cause.append _⟩
    · simp [origin.bytes, Move.bytesSent, Pipe.write]
    · intro shut
      rw [show session.input.closed = true from shut] at going
      cases going
    · intro at_
      obtain ⟨-, shut, -⟩ := origin.whole at_
      rw [shut] at going
      cases going
  | peerShut | peerDrop =>
    refine ⟨?_, fun _ => origin.peerEnd trace rfl rfl, ?_, cause.append _⟩
    · simp [origin.bytes, Move.bytesSent, Pipe.close]
    · intro at_
      obtain ⟨peer, -, empty⟩ := origin.whole at_
      exact ⟨peer.silent rfl, rfl, empty⟩
  | aside move_ same =>
    have silent : move.bytesSent = [] := by
      cases move with
      | outer move => cases move <;> first | rfl | cases move_
      | _ => rfl
    refine origin.still silent same.noBytes same.reader same.content same.closed same.stays ?_
    rw [same.cancelled]
    exact cause.append _
  | _ => exact origin.still rfl (by simp [Signal.bytes]) rfl rfl .inl id (cause.append _)

end Courier.Session
