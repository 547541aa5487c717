import Courier.Proofs.Counting
import Courier.Proofs.Session.Egress
import Courier.Proofs.Session.Order
import Courier.Proofs.Wire

namespace Courier.Session

open Metrics (Counter)
open Package (wire)

variable {Handler : Type}

namespace Signal

def queues : Signal → List Package
  | .queued package => [package]
  | _ => []

def writes : Signal → Bytes
  | .wrote bytes => bytes
  | _ => []

def delivers : Signal → List Package
  | .sent package => [package]
  | _ => []

end Signal

/-- The packages that entered the outbound queue. -/
abbrev queuedIn (signals : List Signal) : List Package := signals.flatMap Signal.queues

/-- The bytes that the transport took. -/
abbrev writtenIn (signals : List Signal) : Bytes := signals.flatMap Signal.writes

/-- The packages whose frames were written to their ends. -/
abbrev deliveredIn (signals : List Signal) : List Package := signals.flatMap Signal.delivers

def Move.posts : Move → List Package
  | .outer (.send package) => [package]
  | _ => []

/-- The packages that senders got into the queue. -/
abbrev postedIn (moves : List Move) : List Package := moves.flatMap Move.posts

/-- The first package has been begun with these bytes and not been written to its end, or none has
been begun. -/
def Begun (packages : List Package) (bytes : Bytes) : Prop :=
  bytes = [] ∨ ∃ package later rest,
    packages = package :: later ∧ package.toBytes = bytes ++ rest ∧ rest ≠ []

/-- The packages that are queued and not delivered, of which `begun` has been written. A writer that
has stopped leaves them undelivered. -/
def Writer.Owes (outbound owed : List Package) (begun : Bytes) : Writer → Prop
  | .idle | .retiring => owed = outbound ∧ begun = []
  | .writing package rest =>
    owed = package :: outbound ∧ package.toBytes = begun ++ rest ∧ rest ≠ []
  | .stopped => Begun owed begun

theorem Writer.Owes.begun {writer : Writer} {outbound owed : List Package} {begun : Bytes}
    (owes : writer.Owes outbound owed begun) : Begun owed begun := by
  cases writer with
  | idle | retiring => exact .inl owes.2
  | writing package rest =>
    obtain ⟨first, split, left⟩ := owes
    exact .inr ⟨package, outbound, rest, first, split, left⟩
  | stopped => exact owes

/-- The transport takes nothing more from the session, whatever its writer does. -/
def Move.breaksOutput : Move → Bool
  | .outer .peerDrop | .outer .breakOutput => true
  | _ => false

def Broken (moves : List Move) : Prop :=
  ∃ move ∈ moves, move.breaksOutput = true

theorem Broken.append {moves : List Move} (broken : Broken moves) (more : List Move) :
    Broken (moves ++ more) := by
  obtain ⟨move, member, breaks⟩ := broken
  exact ⟨move, List.mem_append_left _ member, breaks⟩

theorem Broken.last {moves : List Move} {move : Move} (breaks : move.breaksOutput = true) :
    Broken (moves ++ [move]) :=
  ⟨move, by simp, breaks⟩

/-- What is queued has been checked, and is delivered in order, with at most one frame begun. Only a
transport that breaks stops a writer early. -/
structure Outflow (session : Session Handler) (moves : List Move) (signals : List Signal) :
    Prop where
  fits : ∀ package ∈ queuedIn signals, package.Fits session.plan.bodyLimit
  order : ∃ owed begun, queuedIn signals = deliveredIn signals ++ owed ∧
    writtenIn signals = wire (deliveredIn signals) ++ begun ∧
    session.writer.Owes session.outbound owed begun
  closed : session.output.closed = true → session.isClosed = true ∨ Broken moves
  failed : .writeFailed ∈ signals → Broken moves

variable {start session next : Session Handler} {moves : List Move} {move : Move}
  {signals more : List Signal} {plan : Plan Handler} {pipe : Nat}

theorem outflow_start (opened : plan.start pipe = .ok start) : Outflow start [] [] := by
  obtain ⟨-, rfl⟩ := start_eq_ok_iff.mp opened
  exact ⟨by simp, ⟨[], [], rfl, rfl, rfl, rfl⟩, by simp, by simp⟩

theorem Outflow.waiting (outflow : Outflow session moves signals) (going : session.isClosed = false)
    {package : Package} (member : package ∈ session.outbound) :
    package.Fits session.plan.bodyLimit := by
  obtain ⟨owed, begun, queued, -, owes⟩ := outflow.order
  refine outflow.fits package ?_
  rw [queued]
  refine List.mem_append_right _ ?_
  cases at_ : session.writer with
  | idle | retiring =>
    rw [at_] at owes
    rw [owes.1]
    exact member
  | writing current rest =>
    rw [at_] at owes
    rw [owes.1]
    exact List.mem_cons_of_mem _ member
  | stopped => simp [isClosed, at_] at going

theorem Outflow.encodes (outflow : Outflow session moves signals) (at_ : session.writer = .idle)
    {package : Package} {later : List Package} (first : session.outbound = package :: later) :
    package.encode session.plan.bodyLimit = .ok package.toBytes := by
  have member : package ∈ session.outbound := by simp [first]
  have fits := outflow.waiting (by simp [isClosed, at_]) member
  exact Package.encode_eq_ok_iff.mpr ⟨fits, rfl⟩

structure Unmoved (more : List Signal) : Prop where
  queued : queuedIn more = []
  written : writtenIn more = []
  delivered : deliveredIn more = []

theorem Signal.silent {signal : Signal} (inward : signal.isOutward = false) :
    signal.queues = [] ∧ signal.writes = [] ∧ signal.delivers = [] := by
  cases signal with
  | queued | wrote | sent => cases inward
  | _ => exact ⟨rfl, rfl, rfl⟩

/-- Signals of the way in say nothing about the way out. -/
theorem unmoved_of_inward (inward : ∀ signal ∈ more, signal.isOutward = false) : Unmoved more := by
  have silent := fun signal member => Signal.silent (inward signal member)
  refine ⟨?_, ?_, ?_⟩ <;> refine List.flatMap_eq_nil_iff.mpr fun signal member => ?_
  · exact (silent signal member).1
  · exact (silent signal member).2.1
  · exact (silent signal member).2.2

theorem Outflow.still (outflow : Outflow session moves signals) (unmoved : Unmoved more)
    (plan : next.plan = session.plan)
    (owes : ∀ owed begun, session.writer.Owes session.outbound owed begun →
      next.writer.Owes next.outbound owed begun)
    (closed : next.output.closed = true → session.output.closed = true ∨ next.isClosed = true ∨
      move.breaksOutput = true)
    (stays : session.isClosed = true → next.isClosed = true)
    (failed : .writeFailed ∈ more → Broken moves) :
    Outflow next (moves ++ [move]) (signals ++ more) := by
  obtain ⟨owed, begun, queued, written, owing⟩ := outflow.order
  refine ⟨?_, ⟨owed, begun, ?_, ?_, owes owed begun owing⟩, ?_, ?_⟩
  · simpa [unmoved.queued, plan] using outflow.fits
  · simpa [unmoved.queued, unmoved.delivered] using queued
  · simpa [unmoved.written, unmoved.delivered] using written
  · intro shut
    rcases closed shut with earlier | stopped | breaks
    · exact (outflow.closed earlier).imp stays (·.append _)
    · exact .inl stopped
    · exact .inr (.last breaks)
  · intro member
    rcases List.mem_append.mp member with earlier | now
    · exact (outflow.failed earlier).append _
    · exact (failed now).append _

theorem Outflow.stopping (outflow : Outflow session moves signals) (unmoved : Unmoved more)
    (failed : .writeFailed ∈ more → Broken moves) :
    Outflow session.stopWriting (moves ++ [move]) (signals ++ more) := by
  rw [stopWriting_eq]
  refine outflow.still unmoved rfl ?_ ?_ (fun _ => rfl) failed
  · exact fun _ _ owes => owes.begun
  · exact fun _ => .inr (.inl rfl)

theorem Outflow.change (outflow : Outflow session moves signals)
    (egress : Egress session move next more) :
    Outflow next (moves ++ [move]) (signals ++ more) := by
  have fits := outflow.fits
  obtain ⟨owed, begun, queued, written, owes⟩ := outflow.order
  have failed := outflow.failed
  cases egress with
  | @send package checked going room =>
    have suits := Package.check_eq_ok_iff.mp checked
    refine ⟨?_, ⟨owed ++ [package], begun, ?_, ?_, ?_⟩, ?_, ?_⟩
    · simpa [Signal.queues, or_imp, forall_and, suits] using fits
    · simp [Signal.queues, Signal.delivers, queued]
    · simpa [Signal.writes, Signal.delivers] using written
    · cases at_ : session.writer with
      | idle | retiring =>
        rw [at_] at owes
        exact ⟨by rw [owes.1], owes.2⟩
      | writing current rest =>
        rw [at_] at owes
        exact ⟨by rw [owes.1]; rfl, owes.2⟩
      | stopped => simp [isClosed, at_] at going
    · exact fun shut => (outflow.closed shut).imp id (·.append _)
    · intro member
      exact (failed (by simpa using member)).append _
  | @pick package outbound bytes at_ first encoded =>
    obtain ⟨-, rfl⟩ := Package.encode_eq_ok_iff.mp encoded
    refine outflow.still ⟨rfl, rfl, rfl⟩ rfl ?_ .inl (by simp [isClosed, at_]) (by simp)
    intro owed begun owes
    rw [at_] at owes
    obtain ⟨rfl, rfl⟩ := owes
    exact ⟨first, rfl, package.toBytes_ne_nil⟩
  | @refuse package outbound fault at_ first refused =>
    -- what is queued was checked by the rules that the writer encodes by
    have encoded := outflow.encodes at_ first
    rw [refused] at encoded
    cases encoded
  | @write package rest count at_ going left =>
    rw [at_] at owes
    obtain ⟨rfl, split, -⟩ := owes
    refine ⟨?_, ⟨_, begun ++ rest.take count, ?_, ?_, rfl, ?_, left⟩, ?_, ?_⟩
    · simpa [Signal.queues] using fits
    · simpa [Signal.queues, Signal.delivers] using queued
    · simp [Signal.writes, Signal.delivers, written]
    · rw [split, List.append_assoc, List.take_append_drop]
    · simp [Pipe.write, going]
    · intro member
      exact (failed (by simpa using member)).append _
  | @complete package rest count at_ going whole =>
    rw [at_] at owes
    obtain ⟨rfl, split, -⟩ := owes
    have all : rest.take count = rest := by
      simpa [whole] using List.take_append_drop count rest
    refine ⟨?_, ⟨session.outbound, [], ?_, ?_, rfl, rfl⟩, ?_, ?_⟩
    · simpa [Signal.queues] using fits
    · simp [Signal.queues, Signal.delivers, queued]
    · simp [Signal.writes, Signal.delivers, written, split, all]
    · simp [Pipe.write, going]
    · intro member
      exact (failed (by simpa using member)).append _
  | fail at_ closed =>
    refine outflow.stopping ⟨rfl, rfl, rfl⟩ fun _ => ?_
    exact (outflow.closed closed).resolve_left (by simp [isClosed, at_])
  | retire at_ =>
    refine outflow.still ⟨rfl, rfl, rfl⟩ rfl ?_ .inl (by simp [isClosed, at_]) (by simp)
    intro owed begun owes
    rw [at_] at owes
    exact owes
  | stop | stopLate | leave => exact outflow.stopping ⟨rfl, rfl, rfl⟩ (by simp)
  | peerRead | pass =>
    exact outflow.still ⟨rfl, rfl, rfl⟩ rfl (fun _ _ => id) .inl id (by simp)
  | breakOutput | peerDrop =>
    exact outflow.still ⟨rfl, rfl, rfl⟩ rfl (fun _ _ => id) (fun _ => .inr (.inr rfl)) id (by simp)
  | apart _ same =>
    have stage : next.isClosed = session.isClosed := by simp [isClosed, same.writer]
    refine outflow.still (unmoved_of_inward same.inward) same.plan ?_ ?_ stage.trans ?_
    · rw [same.writer, same.outbound]
      exact fun _ _ => id
    · intro shut
      rw [stage]
      exact (same.closed shut).imp id .inl
    · intro member
      have silent := same.inward _ member
      cases silent

theorem Trace.outflow (opened : plan.start pipe = .ok start)
    (trace : Trace start session moves signals) : Outflow session moves signals := by
  induction trace with
  | stay => exact outflow_start opened
  | step earlier taken ih => exact ih.change (earlier.egress opened taken)

theorem Egress.posted (egress : Egress session move next more) : queuedIn more = move.posts := by
  cases egress with
  | apart inward same =>
    rw [(unmoved_of_inward same.inward).queued]
    unfold Move.posts
    split
    · cases inward
    · rfl
  | _ => rfl

/-- What is queued is what was sent. -/
theorem Trace.posted (opened : plan.start pipe = .ok start)
    (trace : Trace start session moves signals) : queuedIn signals = postedIn moves := by
  induction trace with
  | stay => rfl
  | step earlier taken ih =>
    have sent := (earlier.egress opened taken).posted
    simp only [queuedIn, postedIn, List.flatMap_append, List.flatMap_singleton] at ih sent ⊢
    rw [ih, sent]

theorem Egress.passes_on (egress : Egress session move next more) :
    session.peerTakes move ++ next.output.content = session.output.content ++ writtenIn more := by
  cases egress with
  | write | complete => simp [peerTakes, Pipe.write, Signal.writes]
  | refuse | fail | stop | stopLate | leave =>
    rw [stopWriting_eq]
    simp [peerTakes, Pipe.close, Signal.writes]
  | peerRead => simp [peerTakes, Pipe.read]
  | apart inward same =>
    have silent : session.peerTakes move = [] := by
      unfold peerTakes
      split
      · cases inward
      · rfl
    rw [silent, same.content, (unmoved_of_inward same.inward).written, List.append_nil]
    rfl
  | _ => simp [peerTakes, Pipe.close, Signal.writes]

/-- The peer takes the bytes that were written in their order, and the rest of them is waiting for
it. -/
theorem Trace.peerReads (opened : plan.start pipe = .ok start)
    (trace : Trace start session moves signals) :
    start.peerReads moves ++ session.output.content = writtenIn signals := by
  induction trace with
  | stay =>
    obtain ⟨-, rfl⟩ := start_eq_ok_iff.mp opened
    rfl
  | step earlier taken ih =>
    have passed := (earlier.egress opened taken).passes_on
    rw [peerReads_concat (trace_iff_play.mp earlier) taken, List.append_assoc, passed,
      ← List.append_assoc, ih]
    simp only [writtenIn, List.flatMap_append]

theorem Begun.isPrefix {packages : List Package} {bytes : Bytes} (begun : Begun packages bytes) :
    bytes <+: wire packages := by
  rcases begun with rfl | ⟨package, later, rest, rfl, split, -⟩
  · exact List.nil_prefix
  · rw [Package.wire_cons, split, List.append_assoc]
    exact List.prefix_append _ _

structure Signal.WeighsOut (signal : Signal) : Prop where
  delivers : Counter.packagesSent.total signal.events = .ofNat signal.delivers.length
  frames : Counter.bytesSent.total signal.events = .ofNat (wire signal.delivers).length

theorem Signal.weighsOut (signal : Signal) : signal.WeighsOut := by
  cases signal with
  | sent package =>
    refine ⟨rfl, ?_⟩
    simp [events, delivers, Counter.total, Counter.gain]
  | completed package verdict => rcases verdict with (fault | ⟨⟩) | _ <;> constructor <;> rfl
  | closed how => cases how <;> constructor <;> rfl
  | _ => constructor <;> rfl

theorem packagesSent_countSignals (before : Metrics) (signals : List Signal) :
    (countSignals before signals).packagesSent =
      before.packagesSent + .ofNat (deliveredIn signals).length :=
  Counter.packagesSent.read_countSignals (fun signal => signal.weighsOut.delivers) before signals

theorem bytesSent_countSignals (before : Metrics) (signals : List Signal) :
    (countSignals before signals).bytesSent =
      before.bytesSent +
        .ofNat (((deliveredIn signals).map Package.frameLength).foldr (· + ·) 0) := by
  have frames : signals.flatMap (fun signal => wire signal.delivers) = wire (deliveredIn signals) :=
    List.flatMap_assoc.symm
  rw [← Package.length_wire, ← frames]
  exact Counter.bytesSent.read_countSignals (fun signal => signal.weighsOut.frames) before signals

theorem sending_of_check {package : Package} {fault : Fault}
    (refused : package.check session.plan.bodyLimit = .error fault) :
    session.sending package = .refused fault := by
  simp [sending, refused]

/-- The transport has taken the frames of the packages queued, in their order: all of those counted
as sent, and of the next one no more than a part; what it took is with the peer or waits for it. The
rest is in the queue, unless the writer has stopped. A package that cannot be encoded is refused
before it is queued, and the writer can encode each one that is. -/
theorem output_is_queued_frames (opened : plan.start pipe = .ok start)
    (played : start.play moves = some (session, signals)) :
    let accepted := start.peerReads moves ++ session.output.content
    queuedIn signals = postedIn moves ∧ accepted = writtenIn signals ∧
      accepted <+: wire (queuedIn signals) ∧
      (∃ owed begun, queuedIn signals = deliveredIn signals ++ owed ∧
        accepted = wire (deliveredIn signals) ++ begun ∧ Begun owed begun ∧
        session.writer.Owes session.outbound owed begun) ∧
      (∀ before : Metrics,
        let after := countSignals before signals
        after.packagesSent = before.packagesSent + .ofNat (deliveredIn signals).length ∧
        after.bytesSent =
          before.bytesSent +
            .ofNat (((deliveredIn signals).map Package.frameLength).foldr (· + ·) 0)) ∧
      (∀ package fault, package.check plan.bodyLimit = .error fault →
        (∃ refusal, fault = .unencodable refusal) ∧ session.sending package = .refused fault ∧
          session.step (.outer (.send package)) = none ∧ package ∉ queuedIn signals) ∧
      (∀ package ∈ queuedIn signals,
        (Frame.Codec.ofLimit plan.bodyLimit).encode package [] = (.ok (), package.toBytes)) ∧
      (∀ next more, session.step (.writer .pick) = some (next, more) →
        more = [] ∧ ∃ package ∈ session.outbound,
          next.writer = .writing package package.toBytes) ∧
      (.writeFailed ∈ signals → Broken moves) := by
  intro accepted
  have trace := trace_iff_play.mpr played
  have outflow := trace.outflow opened
  have passed : accepted = writtenIn signals := trace.peerReads opened
  obtain ⟨rfl, coherent, -⟩ := trace.inward opened
  obtain ⟨owed, begun, queued, written, owes⟩ := outflow.order
  have part := owes.begun
  have split := passed.trans written
  refine ⟨trace.posted opened, passed, ?_, ⟨owed, begun, queued, split, part, owes⟩, ?_, ?_, ?_, ?_,
    outflow.failed⟩
  · rw [queued, split, Package.wire_append]
    exact (List.prefix_append_right_inj _).mpr part.isPrefix
  · exact fun before =>
      ⟨packagesSent_countSignals before signals, bytesSent_countSignals before signals⟩
  · intro package fault refused
    have answer := sending_of_check refused
    refine ⟨Package.unencodable_of_check refused, answer, by simp [step, stepOuter, answer], ?_⟩
    intro member
    rw [Package.check_eq_ok_iff.mpr (outflow.fits package member)] at refused
    cases refused
  · intro package member
    have encoded := Package.encode_eq_ok_iff.mpr ⟨outflow.fits package member, rfl⟩
    simp [Frame.Codec.encode, Frame.Codec.ofLimit, Package.encodeInto, encoded]
  · intro next more taken
    have egress := coherent.egress taken
    cases egress with
    | @pick package outbound bytes at_ first encoded =>
      obtain ⟨-, rfl⟩ := Package.encode_eq_ok_iff.mp encoded
      exact ⟨rfl, package, by simp [first], rfl⟩
    | @refuse package outbound fault at_ first refused =>
      have encoded := outflow.encodes at_ first
      rw [refused] at encoded
      cases encoded
    | apart inward => cases inward

/-- A session on a transport that holds four bytes. -/
def tightStart : Session Unit where
  plan := narrowPlan
  decoder := .ofLimit 4
  input := { capacity := 4 }
  output := { capacity := 4 }

/-- The first frame does not fit the transport, and a second package waits behind it. -/
def tightMoves : List Move :=
  [.outer (.send ⟨⟨1, 7, 2⟩, [65]⟩), .writer .pick, .outer (.send ⟨⟨0, 8, 1⟩, []⟩),
    .writer (.write 4), .outer (.peerRead 3), .writer (.write 2), .writer .pick,
    .writer (.write 1)]

theorem output_is_queued_frames_on_tight_transport :
    ∃ (session : Session Unit) (signals : List Signal),
      narrowPlan.start 4 = .ok tightStart ∧ tightStart.play tightMoves = some (session, signals) ∧
        tightStart.peerReads tightMoves = [0, 1, 0] ∧ session.output.content = [7, 2, 65, 0] ∧
        tightStart.peerReads tightMoves ++ session.output.content <+: wire (queuedIn signals) ∧
        queuedIn signals = [⟨⟨1, 7, 2⟩, [65]⟩, ⟨⟨0, 8, 1⟩, []⟩] ∧
        deliveredIn signals = [⟨⟨1, 7, 2⟩, [65]⟩] ∧
        (countSignals {} signals).packagesSent = 1 ∧ (countSignals {} signals).bytesSent = 6 ∧
        session.sending ⟨⟨2, 7, 2⟩, [65]⟩ = .refused (.unencodable (.lengthMismatch 2 1)) := by
  have opened : narrowPlan.start 4 = .ok tightStart := rfl
  obtain ⟨session, signals, played, waiting, delivered⟩ :
      ∃ (session : Session Unit) (signals : List Signal),
        tightStart.play tightMoves = some (session, signals) ∧
        session.output.content = [7, 2, 65, 0] ∧
        deliveredIn signals = [⟨⟨1, 7, 2⟩, [65]⟩] := ⟨_, _, rfl, rfl, rfl⟩
  obtain ⟨queued, -, first, -, counted, admission, -⟩ := output_is_queued_frames opened played
  obtain ⟨packages, bytes⟩ := counted {}
  rw [delivered] at packages bytes
  exact ⟨session, signals, opened, played, rfl, waiting, first, queued, delivered, packages, bytes,
    (admission _ _ rfl).2.1⟩

end Courier.Session
