import Courier.Session.Step

/-! What one move can change on the way of a package from the transport to its handler. Every
invariant of reader, queue, worker and close is read off these cases; the moves of writer, senders,
peer and clock stand aside from them. -/
namespace Courier.Session

variable {Handler : Type}

def Signal.isOutward : Signal → Bool
  | .queued _ | .wrote _ | .sent _ | .writeFailed => true
  | _ => false

/-- Nothing has changed on the way in, but that the transport may have been let go of. -/
structure Aside (session next : Session Handler) (more : List Signal) : Prop where
  plan : next.plan = session.plan
  decoder : next.decoder = session.decoder
  reader : next.reader = session.reader
  queue : next.queue = session.queue
  worker : next.worker = session.worker
  life : next.life = session.life
  cancelled : next.cancelled = session.cancelled
  content : next.input.content = session.input.content
  closed : next.input.closed = true → session.input.closed = true ∨ session.hasStoppedReading = true
  stays : session.input.closed = true → next.input.closed = true
  outward : ∀ signal ∈ more, signal.isOutward = true

/-- The moves of the writer, of senders, of the peer's reading side and of the clock. -/
def Move.isAside : Move → Bool
  | .writer _ => true
  | .outer (.send _) | .outer (.peerRead _) | .outer .breakOutput | .outer (.pass _) => true
  | _ => false

/-- The moves of a session whose worker takes packages while the reader reads. -/
inductive Change (session : Session Handler) : Move → Session Handler → List Signal → Prop where
  | look (at_ : session.reader = .checking) (room : session.hasRoom = true) :
      Change session (.reader .check) { session with reader := .reading } []
  | await (at_ : session.reader = .checking) (full : session.hasRoom = false) :
      Change session (.reader .check) { session with reader := .stalled } [.stalled]
  | resume (at_ : session.reader = .stalled) (room : session.hasRoom = true) :
      Change session (.reader .resume) { session with reader := .reading } []
  | read {count : Nat} (at_ : session.reader = .reading) (some : 0 < count)
      (few : count ≤ session.plan.readSize) :
      Change session (.reader (.read count))
        { session with
          input := { session.input with content := session.input.content.drop count }
          decoder := session.decoder.push (session.input.content.take count)
          reader := .scanning }
        [.received (session.input.content.take count)]
  | meetEnd (at_ : session.reader = .reading) (closed : session.input.closed = true)
      (empty : session.input.content = []) :
      Change session (.reader .meetEnd) (session.endReading .peerClosed) []
  | meetFault {reason : String} (at_ : session.reader = .reading) :
      Change session (.reader (.meetFault reason)) (session.endReading (.failed (.io reason))) []
  | wait {decoder : Frame.Decoder} (at_ : session.reader = .scanning)
      (pulled : session.decoder.pull = (decoder, .ok none)) :
      Change session (.reader .pull) { session with decoder, reader := .checking } []
  | store {decoder : Frame.Decoder} {package : Package} (at_ : session.reader = .scanning)
      (pulled : session.decoder.pull = (decoder, .ok (some package)))
      (room : session.hasRoom = true) :
      Change session (.reader .pull)
        { session with decoder, queue := session.queue ++ [package] } [.decoded package]
  | hold {decoder : Frame.Decoder} {package : Package} (at_ : session.reader = .scanning)
      (pulled : session.decoder.pull = (decoder, .ok (some package)))
      (full : session.hasRoom = false) :
      Change session (.reader .pull)
        { session with decoder, reader := .holding package } [.decoded package, .stalled]
  | reject {decoder : Frame.Decoder} {declared limit : UInt16} (at_ : session.reader = .scanning)
      (pulled : session.decoder.pull = (decoder, .error (.oversized declared limit))) :
      Change session (.reader .pull)
        ({ session with decoder }.endReading (.failed (.oversized declared limit)))
        [.rejected declared limit]
  | fault {decoder : Frame.Decoder} {fault : Fault} (at_ : session.reader = .scanning)
      (pulled : session.decoder.pull = (decoder, .error fault))
      (other : ∀ declared limit, fault ≠ .oversized declared limit) :
      Change session (.reader .pull) ({ session with decoder }.endReading (.failed fault)) []
  | release {package : Package} (at_ : session.reader = .holding package)
      (room : session.hasRoom = true) :
      Change session (.reader .release)
        { session with reader := .scanning, queue := session.queue ++ [package] } []
  | leave (cancelled : session.cancelled = true)
      (at_ : session.reader = .stalled ∨ session.reader = .reading) :
      Change session (.reader .leave) (session.endReading .localClose) []
  | abandon {package : Package} (cancelled : session.cancelled = true)
      (at_ : session.reader = .holding package) :
      Change session (.reader .leave) (session.endReading .localClose) [.abandoned package]
  | take {package : Package} {queue : List Package} (at_ : session.worker = .idle)
      (first : session.queue = package :: queue) :
      Change session (.worker .take) { session with queue, worker := .weighing package }
        [.taken package]
  | skip {package : Package} (at_ : session.worker = .weighing package)
      (cancelled : session.cancelled = true) :
      Change session (.worker .weigh) { session with worker := .idle } [.skipped package]
  | assign {package : Package} (at_ : session.worker = .weighing package)
      (going : session.cancelled = false) :
      Change session (.worker .weigh) { session with worker := .assigned package } []
  | start {package : Package} {handler : Handler} (at_ : session.worker = .assigned package)
      (routed : session.plan.routes.resolve? package = some handler) :
      Change session (.worker .start) { session with worker := .handling package handler }
        [.started package]
  | miss {package : Package} (at_ : session.worker = .assigned package)
      (unrouted : session.plan.routes.resolve? package = none) :
      Change session (.worker .start) { session with worker := .idle } [.missed package]
  | finish {package : Package} {handler : Handler} {verdict : Verdict}
      (at_ : session.worker = .handling package handler) :
      Change session (.worker (.finish verdict)) { session with worker := .idle }
        [.completed package verdict]
  | stop (at_ : session.worker = .idle) (empty : session.queue = [])
      (ended : session.hasStoppedReading = true) :
      Change session (.worker .stop) { session with worker := .stopped } []
  | join (gone : session.workerGone = true) (at_ : session.life = .draining) :
      Change session (.life .join) { session with life := .closing, cancelled := true } []
  | joinLate {deadline : Nat} (gone : session.workerGone = true)
      (at_ : session.life = .joining deadline) :
      Change session (.life .join) { session with life := .closing } []
  | hurry (at_ : session.life = .draining) (cancelled : session.cancelled = true) :
      Change session (.life .hurry) { session with life := .joining session.deadline } []
  | giveUp {deadline : Nat} (busy : session.workerGone = false)
      (at_ : session.life = .joining deadline) (late : deadline ≤ session.now) :
      Change session (.life .giveUp) { session with life := .closing } [.gaveUp]
  | close {how : End} (at_ : session.life = .closing) (written : session.isClosed = true)
      (ended : session.reader = .ended how) :
      Change session (.life .close) { session with life := .finished how } [.closed how]
  | cancel : Change session (.outer .cancel) { session with cancelled := true } [.told]
  | peerWrite {bytes : Bytes} (going : session.input.closed = false) :
      Change session (.outer (.peerWrite bytes)) { session with input := session.input.write bytes }
        []
  | peerShut : Change session (.outer .peerShut) { session with input := session.input.close } []
  | peerDrop :
      Change session (.outer .peerDrop)
        { session with input := session.input.close, output := session.output.close } []
  | aside {move : Move} {next : Session Handler} {more : List Signal}
      (move_ : move.isAside = true) (same : Aside session next more) :
      Change session move next more

theorem endReading_eq (session : Session Handler) (how : End) :
    session.endReading how =
      { session with
        reader := .ended how
        life := match how with
          | .peerClosed => .draining
          | _ => .joining session.deadline
        cancelled := match how with
          | .peerClosed => session.cancelled
          | _ => true
        input := if session.isClosed then session.input.close else session.input
        output := if session.isClosed then session.output.close else session.output } := by
  obtain ⟨_, _, _, _, _, _, _, _, writer, _, _, _⟩ := session
  cases writer <;> cases how <;> rfl

theorem stopWriting_eq (session : Session Handler) :
    session.stopWriting =
      { session with
        writer := .stopped
        outbound := []
        input := if session.hasStoppedReading then session.input.close else session.input
        output := session.output.close } := by
  obtain ⟨_, _, _, _, reader, _, _, _, _, _, _, _⟩ := session
  cases reader <;> rfl

theorem stepReader_of_ended {session : Session Handler} (ended : session.hasStoppedReading = true)
    (move : ReaderMove) : session.stepReader move = none := by
  unfold hasStoppedReading at ended
  split at ended
  · rename_i how at_
    cases move <;> simp [stepReader, at_]
  · cases ended

variable {session next : Session Handler} {more : List Signal}

private theorem change_of_stepReader {move : ReaderMove} (served : session.workerGone = false)
    (taken : session.stepReader move = some (next, more)) :
    Change session (.reader move) next more := by
  cases move with
  | check =>
    simp only [stepReader] at taken
    split at taken <;> try cases taken
    rename_i at_
    split at taken <;> cases taken
    · rename_i room
      exact .look at_ room
    · rename_i full
      exact .await at_ (Bool.eq_false_iff.mpr full)
  | resume =>
    simp only [stepReader, served, Bool.false_eq_true, if_false] at taken
    split at taken <;> try cases taken
    rename_i at_
    split at taken <;> cases taken
    rename_i room
    exact .resume at_ room
  | read count =>
    simp only [stepReader] at taken
    split at taken <;> try cases taken
    rename_i at_
    split at taken <;> cases taken
    rename_i bounds
    exact .read at_ bounds.1 bounds.2.1
  | meetEnd =>
    simp only [stepReader] at taken
    split at taken <;> try cases taken
    rename_i at_
    split at taken <;> cases taken
    rename_i ended
    simp only [Pipe.atEnd, Bool.and_eq_true, List.isEmpty_iff] at ended
    exact .meetEnd at_ ended.1 ended.2
  | meetFault reason =>
    simp only [stepReader] at taken
    split at taken <;> cases taken
    rename_i at_
    exact .meetFault at_
  | pull =>
    simp only [stepReader] at taken
    split at taken <;> try cases taken
    rename_i at_
    rcases pulled : session.decoder.pull with ⟨decoder, fault | none | package⟩
    · simp only [pulled] at taken
      split at taken <;> cases taken
      · rename_i same
        cases same
      · rename_i same
        cases same
      · rename_i same
        cases same
        exact .reject at_ pulled
      · rename_i other same
        cases same
        exact .fault at_ pulled (fun declared limit same => other declared limit (by rw [same]))
    · simp only [pulled] at taken
      cases taken
      exact .wait at_ pulled
    · have free : Session.workerGone { session with decoder } = false := served
      simp only [pulled, enqueue, free, Bool.false_eq_true, if_false] at taken
      split at taken <;> cases taken
      · rename_i room
        exact .store at_ pulled room
      · rename_i full
        exact .hold at_ pulled (Bool.eq_false_iff.mpr full)
  | release =>
    simp only [stepReader, served, Bool.false_eq_true, if_false] at taken
    split at taken <;> try cases taken
    rename_i package at_
    split at taken <;> cases taken
    rename_i room
    exact .release at_ room
  | leave =>
    simp only [stepReader] at taken
    split at taken <;> try cases taken
    rename_i cancelled
    split at taken <;> cases taken
    · rename_i at_
      exact .leave cancelled (.inl at_)
    · rename_i at_
      exact .leave cancelled (.inr at_)
    · rename_i package at_
      exact .abandon cancelled at_

private theorem change_of_stepWorker {move : WorkerMove}
    (taken : session.stepWorker move = some (next, more)) :
    Change session (.worker move) next more := by
  cases move with
  | take =>
    simp only [stepWorker] at taken
    split at taken <;> cases taken
    rename_i at_ first
    exact .take at_ first
  | weigh =>
    simp only [stepWorker] at taken
    split at taken <;> try cases taken
    rename_i at_
    split at taken <;> cases taken
    · rename_i cancelled
      exact .skip at_ cancelled
    · rename_i going
      exact .assign at_ (Bool.eq_false_iff.mpr going)
  | start =>
    simp only [stepWorker] at taken
    split at taken <;> try cases taken
    rename_i at_
    split at taken <;> cases taken
    · rename_i routed
      exact .start at_ routed
    · rename_i unrouted
      exact .miss at_ unrouted
  | finish verdict =>
    simp only [stepWorker] at taken
    split at taken <;> cases taken
    rename_i at_
    exact .finish at_
  | stop =>
    simp only [stepWorker] at taken
    split at taken <;> try cases taken
    rename_i at_ empty
    split at taken <;> cases taken
    rename_i ended
    exact .stop at_ empty ended

private theorem change_of_stepLife {move : LifeMove}
    (taken : session.stepLife move = some (next, more)) :
    Change session (.life move) next more := by
  cases move with
  | join =>
    simp only [stepLife] at taken
    split at taken <;> cases taken
    · rename_i gone at_
      exact .join (by simp [workerGone, gone]) at_
    · rename_i gone at_
      exact .joinLate (by simp [workerGone, gone]) at_
  | hurry =>
    simp only [stepLife] at taken
    split at taken <;> try cases taken
    rename_i at_
    split at taken <;> cases taken
    rename_i cancelled
    exact .hurry at_ cancelled
  | giveUp =>
    simp only [stepLife] at taken
    split at taken <;> try cases taken
    rename_i at_ busy
    split at taken <;> cases taken
    rename_i late
    refine .giveUp ?_ at_ late
    unfold workerGone
    split
    · rename_i gone
      exact absurd gone busy
    · rfl
  | close =>
    simp only [stepLife] at taken
    split at taken <;> cases taken
    rename_i at_ written ended
    exact .close at_ (by simp [isClosed, written]) ended

private theorem aside_stopWriting (outward : ∀ signal ∈ more, signal.isOutward = true) :
    Aside session session.stopWriting more := by
  rw [stopWriting_eq]
  cases stopped : session.hasStoppedReading <;> constructor <;> simp_all [Pipe.close]

private theorem aside_of_stepWriter {move : WriterMove}
    (taken : session.stepWriter move = some (next, more)) : Aside session next more := by
  cases move with
  | pick =>
    simp only [stepWriter] at taken
    split at taken <;> try cases taken
    split at taken <;> cases taken
    · constructor <;> simp_all
    · exact aside_stopWriting (by simp [Signal.isOutward])
  | write count =>
    simp only [stepWriter] at taken
    split at taken <;> try cases taken
    split at taken <;> try cases taken
    split at taken <;> cases taken <;> constructor <;> simp_all [Signal.isOutward]
  | meetFault =>
    simp only [stepWriter] at taken
    split at taken <;> try cases taken
    split at taken <;> cases taken
    exact aside_stopWriting (by simp [Signal.isOutward])
  | retire =>
    simp only [stepWriter] at taken
    split at taken <;> try cases taken
    split at taken <;> cases taken
    constructor <;> simp_all
  | stop =>
    simp only [stepWriter] at taken
    split at taken
    · split at taken <;> cases taken
      exact aside_stopWriting (by simp)
    · cases taken
      exact aside_stopWriting (by simp)
    · cases taken
  | leave =>
    simp only [stepWriter] at taken
    split at taken <;> try cases taken
    split at taken <;> cases taken
    exact aside_stopWriting (by simp)

private theorem change_of_stepOuter {move : OuterMove}
    (taken : session.stepOuter move = some (next, more)) :
    Change session (.outer move) next more := by
  cases move with
  | send package =>
    simp only [stepOuter] at taken
    split at taken <;> cases taken
    refine .aside rfl ?_
    constructor <;> simp_all [Signal.isOutward]
  | cancel =>
    cases taken
    exact .cancel
  | peerWrite bytes =>
    simp only [stepOuter] at taken
    split at taken <;> cases taken
    rename_i going
    simp only [Bool.and_eq_true, Bool.not_eq_true'] at going
    exact .peerWrite going.1
  | peerShut =>
    cases taken
    exact .peerShut
  | peerDrop =>
    cases taken
    exact .peerDrop
  | peerRead | breakOutput | pass =>
    cases taken
    refine .aside rfl ?_
    constructor <;> simp_all

/-- Every move of a session is one of the changes, as long as the worker does not stop before the
reader. -/
theorem change_of_step {move : Move}
    (served : session.workerGone = true → session.hasStoppedReading = true)
    (taken : session.step move = some (next, more)) : Change session move next more := by
  cases move with
  | reader move =>
    have going : session.hasStoppedReading = false := by
      apply Bool.eq_false_iff.mpr
      intro ended
      have stuck := stepReader_of_ended ended move
      rw [step, stuck] at taken
      cases taken
    apply change_of_stepReader _ taken
    exact Bool.eq_false_iff.mpr (fun gone => by simp [served gone] at going)
  | worker move => exact change_of_stepWorker taken
  | writer move => exact .aside rfl (aside_of_stepWriter taken)
  | life move => exact change_of_stepLife taken
  | outer move => exact change_of_stepOuter taken

end Courier.Session
