import Courier.Proofs.Server.Change
import Courier.Proofs.Session.Account
import Courier.Proofs.Session.Ending

namespace Courier.Session

open Metrics (Counter)

variable {Handler : Type} {start session next : Session Handler} {move : Session.Move}
  {moves : List Session.Move} {signals more : List Signal} {plan : Plan Handler} {pipe : Nat}

/-- The session's result is a fault. -/
def hasFailed (session : Session Handler) : Bool :=
  match session.end?.map End.result with
  | some (.error _) => true
  | _ => false

/-- The session's result is that it met an oversized header. -/
def hasFailedOversized (session : Session Handler) : Bool :=
  match session.end?.map End.result with
  | some (.error (.oversized ..)) => true
  | _ => false

/-- The reader met an oversized header. -/
def hasRejected (session : Session Handler) : Bool :=
  match session.reader with
  | .ended (.failed (.oversized ..)) => true
  | _ => false

/-- What a session that counts alone has counted since its start. -/
def ownMetrics (signals : List Signal) : Metrics :=
  countSignals {} (.opened :: signals)

theorem countSignals_append (before : Metrics) (first second : List Signal) :
    countSignals before (first ++ second) = countSignals (countSignals before first) second := by
  simp [countSignals]

theorem ownMetrics_append (signals more : List Signal) :
    ownMetrics (signals ++ more) = countSignals (ownMetrics signals) more :=
  countSignals_append {} (.opened :: signals) more

/-- What a session has counted of its work is how much it did. -/
structure Contribution (own : Metrics) (signals : List Signal) : Prop where
  bytesReceived : own.bytesReceived = .ofNat (receivedIn signals).length
  packagesDecoded : own.packagesDecoded = .ofNat (decodedIn signals).length
  packagesDispatched : own.packagesDispatched = .ofNat (succeededIn signals).length
  dispatchMisses : own.dispatchMisses = .ofNat (missedIn signals).length
  handlerFailures : own.handlerFailures = .ofNat (failedIn signals).length
  dispatchesCancelled : own.dispatchesCancelled = .ofNat (skippedIn signals).length
  backpressureStalls : own.backpressureStalls = .ofNat (signals.flatMap Signal.stalls).length
  packagesSent : own.packagesSent = .ofNat (deliveredIn signals).length
  bytesSent : own.bytesSent =
    .ofNat (((deliveredIn signals).map Package.frameLength).foldr (· + ·) 0)

theorem contribution_ownMetrics (signals : List Signal) :
    Contribution (ownMetrics signals) signals where
  bytesReceived := (bytesReceived_countSignals {} _).trans (UInt64.zero_add _)
  packagesDecoded := (packagesDecoded_countSignals {} _).trans (UInt64.zero_add _)
  packagesDispatched := (packagesDispatched_countSignals {} _).trans (UInt64.zero_add _)
  dispatchMisses := (dispatchMisses_countSignals {} _).trans (UInt64.zero_add _)
  handlerFailures := (handlerFailures_countSignals {} _).trans (UInt64.zero_add _)
  dispatchesCancelled := (dispatchesCancelled_countSignals {} _).trans (UInt64.zero_add _)
  backpressureStalls := (backpressureStalls_countSignals {} _).trans (UInt64.zero_add _)
  packagesSent := (packagesSent_countSignals {} _).trans (UInt64.zero_add _)
  bytesSent := (bytesSent_countSignals {} _).trans (UInt64.zero_add _)

/-- The counters of a session's own life tell its state. -/
structure Enrolled (session : Session Handler) (own : Metrics) : Prop where
  total : own.sessionsTotal = 1
  active : own.sessionsActive = if session.isFinished then 0 else 1
  failed : own.sessionsFailed = if session.hasFailed then 1 else 0
  rejected : own.oversizedRejections = if session.hasRejected then 1 else 0

/-- The counters of a session's life are alike. -/
structure Alike (before after : Metrics) : Prop where
  total : after.sessionsTotal = before.sessionsTotal
  active : after.sessionsActive = before.sessionsActive
  failed : after.sessionsFailed = before.sessionsFailed
  rejected : after.oversizedRejections = before.oversizedRejections

theorem alike_of_outward (before : Metrics) (outward : ∀ signal ∈ more, signal.isOutward = true) :
    Alike before (countSignals before more) := by
  induction more generalizing before with
  | nil => exact ⟨rfl, rfl, rfl, rfl⟩
  | cons signal rest ih =>
    have later := ih (countSignals before [signal]) fun other member =>
      outward other (List.mem_cons_of_mem _ member)
    have split := countSignals_append before [signal] rest
    rw [List.singleton_append] at split
    rw [← split] at later
    have first := outward signal List.mem_cons_self
    cases signal with
    | queued | wrote | sent | writeFailed =>
      exact ⟨later.total, later.active, later.failed, later.rejected⟩
    | _ => cases first

theorem hasFailed_of_life (same : next.life = session.life) :
    next.hasFailed = session.hasFailed := by
  rw [hasFailed, hasFailed, end?, end?, same]

theorem isFinished_of_life (same : next.life = session.life) :
    next.isFinished = session.isFinished := by
  rw [isFinished, isFinished, same]

theorem hasRejected_of_reader (same : next.reader = session.reader) :
    next.hasRejected = session.hasRejected := by
  rw [hasRejected, hasRejected, same]

theorem hasRejected_of_going (going : session.hasStoppedReading = false) :
    session.hasRejected = false := by
  unfold hasRejected
  split
  · rename_i at_
    simp [hasStoppedReading, at_] at going
  · rfl

theorem Coherent.going (coherent : Coherent session) (going : session.hasStoppedReading = false) :
    session.isFinished = false ∧ session.hasFailed = false := by
  have running := coherent.running going
  exact ⟨by rw [isFinished, running], by rw [hasFailed, end?, running]; rfl⟩

/-- A session whose reader has just ended is still to be closed. -/
theorem going_endReading (session : Session Handler) (how : End) :
    (session.endReading how).isFinished = false ∧ (session.endReading how).hasFailed = false := by
  rw [endReading_eq]
  cases how <;> exact ⟨rfl, rfl⟩

theorem hasRejected_endReading (session : Session Handler) (how : End) :
    (session.endReading how).hasRejected =
      match how with
      | .failed (.oversized ..) => true
      | _ => false := by
  rw [endReading_eq]
  cases how with
  | failed fault => cases fault <;> rfl
  | _ => rfl

theorem enrolled_start (opened : plan.start pipe = .ok start) :
    Enrolled start (ownMetrics []) := by
  obtain ⟨-, rfl⟩ := start_eq_ok_iff.mp opened
  exact ⟨rfl, rfl, rfl, rfl⟩

section

variable {own after : Metrics}

theorem Enrolled.still (enrolled : Enrolled session own) (alike : Alike own after)
    (finished : next.isFinished = session.isFinished) (failed : next.hasFailed = session.hasFailed)
    (rejected : next.hasRejected = session.hasRejected) : Enrolled next after where
  total := alike.total.trans enrolled.total
  active := by rw [alike.active, enrolled.active, finished]
  failed := by rw [alike.failed, enrolled.failed, failed]
  rejected := by rw [alike.rejected, enrolled.rejected, rejected]

/-- A reader that ends enters nothing, unless it met an oversized header. -/
theorem Enrolled.endReading (enrolled : Enrolled session own) (coherent : Coherent session)
    (going : session.hasStoppedReading = false) {how : End}
    (sized : ∀ declared limit, how ≠ .failed (.oversized declared limit)) :
    Enrolled (session.endReading how) own := by
  obtain ⟨unfinished, unfailed⟩ := coherent.going going
  obtain ⟨finished, failed⟩ := going_endReading session how
  refine enrolled.still ⟨rfl, rfl, rfl, rfl⟩ (finished.trans unfinished.symm)
    (failed.trans unfailed.symm) ?_
  rw [hasRejected_endReading, hasRejected_of_going going]
  split
  · exact absurd rfl (sized _ _)
  · rfl

theorem Enrolled.reject (enrolled : Enrolled session own) (coherent : Coherent session)
    (going : session.hasStoppedReading = false) (decoder : Frame.Decoder)
    (declared limit : UInt16) :
    Enrolled ({ session with decoder }.endReading (.failed (.oversized declared limit)))
      (countSignals own [.rejected declared limit]) := by
  obtain ⟨unfinished, unfailed⟩ := coherent.going going
  obtain ⟨finished, failed⟩ := going_endReading { session with decoder }
    (.failed (.oversized declared limit))
  refine ⟨enrolled.total, ?_, ?_, ?_⟩
  · rw [finished, ← unfinished]
    exact enrolled.active
  · rw [failed, ← unfailed]
    exact enrolled.failed
  · have none := enrolled.rejected
    rw [hasRejected_of_going going] at none
    rw [hasRejected_endReading]
    show own.oversizedRejections + 1 = 1
    rw [none]
    rfl

theorem Enrolled.close (enrolled : Enrolled session own) (closing : session.life = .closing)
    (how : End) :
    Enrolled { session with life := .finished how } (countSignals own [.closed how]) := by
  have active := enrolled.active
  have failed := enrolled.failed
  simp only [isFinished, hasFailed, end?, closing] at active failed
  cases how with
  | failed fault =>
    refine ⟨enrolled.total, ?_, ?_, enrolled.rejected⟩
    · show own.sessionsActive - 1 = 0
      rw [active]
      rfl
    · show own.sessionsFailed + 1 = 1
      rw [failed]
      rfl
  | peerClosed | localClose =>
    refine ⟨enrolled.total, ?_, failed, enrolled.rejected⟩
    show own.sessionsActive - 1 = 0
    rw [active]
    rfl

theorem Enrolled.change (enrolled : Enrolled session own) (coherent : Coherent session)
    (change : Change session move next more) : Enrolled next (countSignals own more) := by
  cases change with
  | aside _ same =>
    exact enrolled.still (alike_of_outward own same.outward) (isFinished_of_life same.life)
      (hasFailed_of_life same.life) (hasRejected_of_reader same.reader)
  | look at_ | await at_ | resume at_ | read at_ | wait at_ | store at_ | hold at_ | release at_ =>
    exact enrolled.still ⟨rfl, rfl, rfl, rfl⟩ rfl rfl (by simp [hasRejected, at_])
  | meetEnd at_ | meetFault at_ | abandon _ at_ =>
    exact enrolled.endReading coherent (by simp [hasStoppedReading, at_]) (by simp)
  | leave _ at_ =>
    exact enrolled.endReading coherent
      (by rcases at_ with at_ | at_ <;> simp [hasStoppedReading, at_]) (by simp)
  | @fault decoder fault at_ _ other =>
    have same : Enrolled { session with decoder } own :=
      enrolled.still ⟨rfl, rfl, rfl, rfl⟩ rfl rfl rfl
    have fits : Coherent { session with decoder } :=
      ⟨coherent.served, coherent.life, coherent.bounded⟩
    refine same.endReading fits (by simp [hasStoppedReading, at_]) fun declared limit met => ?_
    cases met
    exact other declared limit rfl
  | @reject decoder declared limit at_ =>
    exact enrolled.reject coherent (by simp [hasStoppedReading, at_]) decoder declared limit
  | take | skip | assign | start | miss | stop | cancel | peerWrite | peerShut | peerDrop =>
    exact enrolled.still ⟨rfl, rfl, rfl, rfl⟩ rfl rfl rfl
  | @finish _ _ verdict =>
    refine enrolled.still ?_ rfl rfl rfl
    rcases verdict with (fault | ⟨⟩) | _ <;> exact ⟨rfl, rfl, rfl, rfl⟩
  | join _ at_ | joinLate _ at_ | hurry at_ | giveUp _ at_ =>
    refine enrolled.still ⟨rfl, rfl, rfl, rfl⟩ ?_ ?_ rfl
    · simp [isFinished, at_]
    · simp [hasFailed, end?, at_]
  | @close how at_ => exact enrolled.close at_ how

end

theorem enrolled_of_play (opened : plan.start pipe = .ok start)
    (played : start.play moves = some (session, signals)) :
    Coherent session ∧ Enrolled session (ownMetrics signals) := by
  have coherent := coherent_start opened
  have trace := trace_iff_play.mpr played
  refine ⟨coherent.run trace.run, ?_⟩
  exact coherent.preserved (fun session _ signals => Enrolled session (ownMetrics signals))
    (enrolled_start opened) (fun _ coherent enrolled change => by
      rw [ownMetrics_append]
      exact enrolled.change coherent change) trace

/-- When a session has finished, its reader met an oversized header exactly if that is its
result. -/
theorem Coherent.hasRejected_eq (coherent : Coherent session) (ended : session.isFinished = true) :
    session.hasRejected = session.hasFailedOversized := by
  obtain ⟨how, life⟩ := life_of_isFinished ended
  have fits := coherent.life
  simp only [LifeFits, life] at fits
  rw [hasRejected, hasFailedOversized, end?, life, fits.1]
  cases how with
  | failed fault => cases fault <;> rfl
  | _ => rfl

theorem hasFailed_of_oversized (failed : session.hasFailedOversized = true) :
    session.hasFailed = true := by
  unfold hasFailedOversized at failed
  unfold hasFailed
  split at failed
  · rename_i at_
    rw [at_]
  · cases failed

/-! Groups of sessions. -/

/-- One session of a group: what it was started with, and what it went through since, time
included. -/
structure Share (Handler : Type) where
  plan : Plan Handler
  pipe : Nat
  moves : List Move := []

def Share.add (share : Share Handler) (move : Move) : Share Handler :=
  { share with moves := share.moves ++ [move] }

/-- Where the session comes to by itself, with its signals. -/
def Share.outcome? (share : Share Handler) : Option (Session Handler × List Signal) :=
  (share.plan.start share.pipe).toOption.bind (·.play share.moves)

namespace Group

variable {group after other : Group Handler} {step : Move Handler}
  {steps rest : List (Move Handler)}

def play (group : Group Handler) (steps : List (Move Handler)) : Option (Group Handler) :=
  steps.foldlM Group.step group

/-- What a move of the group is to its sessions. -/
def deal (shares : List (Share Handler)) : Move Handler → List (Share Handler)
  | .join plan pipe => shares ++ [⟨plan, pipe, []⟩]
  | .session index move => shares.modify index (·.add move)
  | .pass millis => shares.map (·.add (.outer (.pass millis)))

/-- The shares of the sessions in a history of the group. -/
def shares (steps : List (Move Handler)) : List (Share Handler) :=
  steps.foldl deal []

theorem shares_concat (steps : List (Move Handler)) (move : Move Handler) :
    shares (steps ++ [move]) = deal (shares steps) move := by
  simp [shares]

end Group

theorem Share.outcome?_eq_some_iff {share : Share Handler} :
    share.outcome? = some (session, signals) ↔
      ∃ start, share.plan.start share.pipe = .ok start ∧
        start.play share.moves = some (session, signals) := by
  unfold outcome?
  cases share.plan.start share.pipe <;> simp [Except.toOption]

theorem Share.outcome?_add {share : Share Handler}
    (reached : share.outcome? = some (session, signals))
    (taken : session.step move = some (next, more)) :
    (share.add move).outcome? = some (next, signals ++ more) := by
  obtain ⟨start, opened, played⟩ := outcome?_eq_some_iff.mp reached
  exact outcome?_eq_some_iff.mpr ⟨start, opened, play_concat played taken⟩

section Totals

variable {Item Other : Type} {items more : List Item} {weight : Item → UInt64}

/-- The sum of the weights of all items, modulo 64 bits. -/
def totalOf (weight : Item → UInt64) (items : List Item) : UInt64 :=
  items.foldr (fun item sum => weight item + sum) 0

theorem totalOf_concat (last : Item) :
    totalOf weight (items ++ [last]) = totalOf weight items + weight last := by
  induction items with
  | nil => exact UInt64.add_comm _ _
  | cons first rest ih =>
    show weight first + totalOf weight (rest ++ [last]) = weight first + totalOf weight rest + _
    rw [ih, UInt64.add_assoc]

theorem totalOf_map (items : List Other) (change : Other → Item) :
    totalOf weight (items.map change) = totalOf (fun item => weight (change item)) items :=
  List.foldr_map

theorem totalOf_set {index : Nat} {old new : Item} {extra : UInt64}
    (at_ : items[index]? = some old) (grows : weight new = weight old + extra) :
    totalOf weight (items.set index new) = totalOf weight items + extra := by
  induction items generalizing index with
  | nil => cases at_
  | cons first rest ih =>
    cases index with
    | zero =>
      obtain rfl : first = old := by simpa using at_
      show weight new + totalOf weight rest = weight first + totalOf weight rest + extra
      rw [grows, UInt64.add_assoc, UInt64.add_assoc, UInt64.add_comm extra]
    | succ index =>
      have later := ih (by simpa using at_)
      show weight first + totalOf weight (rest.set index new) =
        weight first + totalOf weight rest + extra
      rw [later, UInt64.add_assoc]

/-- If some items count one each, and the others nothing, the total is how many do. -/
theorem totalOf_eq_countP {counts : Item → Bool}
    (one : ∀ item ∈ items, weight item = if counts item then 1 else 0) :
    totalOf weight items = .ofNat (items.countP counts) := by
  induction items with
  | nil => rfl
  | cons first rest ih =>
    have later := ih fun item member => one item (List.mem_cons_of_mem _ member)
    show weight first + totalOf weight rest = _
    rw [later, one first List.mem_cons_self, List.countP_cons]
    split <;> simp [UInt64.add_comm]

end Totals

namespace Group

variable {group after other : Group Handler} {steps rest : List (Move Handler)}

/-- A group is its sessions, each at the end of its share, and the counters are sums of what each
has counted. -/
structure Parted (steps : List (Move Handler)) (group : Group Handler)
    (outcomes : List (Session Handler × List Signal)) : Prop where
  alone : (shares steps).map Share.outcome? = outcomes.map some
  sessions : group.sessions = outcomes.map Prod.fst
  counted : ∀ counter : Counter, counter.read group.metrics =
    totalOf (fun outcome => counter.read (ownMetrics outcome.2)) outcomes

theorem parted_start : Parted [] ({} : Group Handler) [] :=
  ⟨rfl, rfl, fun counter => by cases counter <;> rfl⟩

theorem read_countSignals_eq (counter : Counter) (before : Metrics) (signals : List Signal) :
    counter.read (countSignals before signals) =
      counter.read before + counter.total (signals.flatMap Signal.events) :=
  counter.read_foldl before _

theorem start_of_join (taken : group.step (.join plan pipe) = some after) :
    ∃ start, plan.start pipe = .ok start ∧
      after = ⟨group.sessions ++ [start], countSignals group.metrics [.opened]⟩ := by
  cases opened : plan.start pipe with
  | error panic =>
    simp [Group.step, join, opened, bind, Except.bind, Except.toOption] at taken
  | ok start =>
    simp only [Group.step, join, opened, bind, Except.bind] at taken
    cases taken
    exact ⟨start, rfl, rfl⟩

section Steps

variable {outcomes : List (Session Handler × List Signal)}

theorem Parted.joined (parted : Parted steps group outcomes)
    (taken : group.step (.join plan pipe) = some after) :
    ∃ later, Parted (steps ++ [.join plan pipe]) after later := by
  obtain ⟨alone, sessions, counted⟩ := parted
  obtain ⟨start, opened, rfl⟩ := start_of_join taken
  refine ⟨outcomes ++ [(start, [])], ?_, ?_, fun counter => ?_⟩
  · have fresh : Share.outcome? ⟨plan, pipe, []⟩ = some (start, []) :=
      Share.outcome?_eq_some_iff.mpr ⟨start, opened, rfl⟩
    simp [shares_concat, deal, alone, fresh]
  · simp [sessions]
  · have zero : counter.read {} = 0 := by cases counter <;> rfl
    rw [totalOf_concat, ← counted]
    simp [ownMetrics, read_countSignals_eq, zero]

theorem Parted.moved {index : Nat} (parted : Parted steps group outcomes)
    (taken : group.step (.session index move) = some after) :
    ∃ later, Parted (steps ++ [.session index move]) after later := by
  obtain ⟨alone, sessions, counted⟩ := parted
  obtain ⟨-, session, next, given, at_, stepped, rfl⟩ := Acceptor.stepSession_of_step taken
  rw [sessions, List.getElem?_map, Option.map_eq_some_iff] at at_
  obtain ⟨⟨_, signals⟩, at_, rfl⟩ := at_
  refine ⟨outcomes.set index (next, signals ++ given), ?_, ?_, fun counter => ?_⟩
  · rw [shares_concat, deal]
    refine List.ext_getElem? fun place => ?_
    have same := congrArg (·[place]?) alone
    simp only [List.getElem?_map, List.getElem?_modify, List.getElem?_set] at same ⊢
    by_cases here : index = place
    · subst here
      have inside := (List.getElem?_eq_some_iff.mp at_).1
      rw [at_] at same
      obtain ⟨share, found, reached⟩ := Option.map_eq_some_iff.mp same
      simp [found, inside, share.outcome?_add reached stepped]
    · simpa [here] using same
  · rw [sessions, List.map_set]
  · have grows : counter.read (ownMetrics (signals ++ given)) =
        counter.read (ownMetrics signals) + counter.total (given.flatMap Signal.events) := by
      rw [ownMetrics_append, read_countSignals_eq]
    rw [totalOf_set at_ grows, read_countSignals_eq, counted]

theorem Parted.passed {millis : Nat} (parted : Parted steps group outcomes)
    (taken : group.step (.pass millis) = some after) :
    ∃ later, Parted (steps ++ [.pass millis]) after later := by
  obtain ⟨alone, sessions, counted⟩ := parted
  cases taken
  refine ⟨outcomes.map fun outcome =>
    ({ outcome.1 with now := outcome.1.now + millis }, outcome.2), ?_, ?_, fun counter => ?_⟩
  · rw [shares_concat, deal]
    refine List.ext_getElem? fun place => ?_
    have same := congrArg (·[place]?) alone
    simp only [List.getElem?_map] at same ⊢
    cases found : outcomes[place]? with
    | none =>
      rw [found, Option.map_none, Option.map_eq_none_iff] at same
      simp [same]
    | some outcome =>
      obtain ⟨session, signals⟩ := outcome
      rw [found] at same
      obtain ⟨share, held, reached⟩ := Option.map_eq_some_iff.mp same
      have waited : session.step (.outer (.pass millis)) =
          some ({ session with now := session.now + millis }, []) := rfl
      simp [held, share.outcome?_add reached waited]
  · simp [Group.pass, sessions]
  · rw [totalOf_map]
    exact counted counter

theorem Parted.step {move : Move Handler} (parted : Parted steps group outcomes)
    (taken : group.step move = some after) : ∃ later, Parted (steps ++ [move]) after later := by
  cases move with
  | join plan pipe => exact parted.joined taken
  | session index move => exact parted.moved taken
  | pass millis => exact parted.passed taken

theorem Parted.play (parted : Parted steps group outcomes) (played : group.play rest = some after) :
    ∃ later, Parted (steps ++ rest) after later := by
  induction rest generalizing steps group outcomes with
  | nil =>
    cases played
    exact ⟨outcomes, by simpa using parted⟩
  | cons move rest ih =>
    obtain ⟨second, taken, remaining⟩ := Option.bind_eq_some_iff.mp played
    obtain ⟨between, moved⟩ := parted.step taken
    have whole := ih moved remaining
    rwa [List.append_assoc] at whole

end Steps

theorem Parted.enrolled {outcomes : List (Session Handler × List Signal)}
    (parted : Parted steps group outcomes) {outcome : Session Handler × List Signal}
    (member : outcome ∈ outcomes) :
    Coherent outcome.1 ∧ Enrolled outcome.1 (ownMetrics outcome.2) := by
  have reached : some outcome ∈ (shares steps).map Share.outcome? := by
    rw [parted.alone]
    exact List.mem_map_of_mem member
  obtain ⟨share, -, reached⟩ := List.mem_map.mp reached
  obtain ⟨start, opened, played⟩ := Share.outcome?_eq_some_iff.mp reached
  exact enrolled_of_play opened played

/-- A counter to which each session adds one or nothing shows how many do. -/
theorem Parted.read_eq {outcomes : List (Session Handler × List Signal)}
    (parted : Parted steps group outcomes) (few : group.sessions.length < UInt64.size)
    (counter : Counter) {counts : Session Handler → Bool}
    (one : ∀ outcome ∈ outcomes,
      counter.read (ownMetrics outcome.2) = if counts outcome.1 then 1 else 0) :
    (counter.read group.metrics).toNat = group.sessions.countP counts := by
  have total := totalOf_eq_countP one
  have below : group.sessions.countP counts < UInt64.size :=
    Nat.lt_of_le_of_lt List.countP_le_length few
  rw [parted.counted counter, total, parted.sessions, List.countP_map]
  rw [parted.sessions, List.countP_map] at below
  exact UInt64.toNat_ofNat_of_lt' below

theorem metrics_ext {first second : Metrics}
    (same : ∀ counter : Counter, counter.read first = counter.read second) : first = second := by
  cases first
  cases second
  simp only [Metrics.mk.injEq]
  exact ⟨same .sessionsTotal, same .sessionsActive, same .sessionsFailed, same .packagesDecoded,
    same .packagesSent, same .bytesReceived, same .bytesSent, same .oversizedRejections,
    same .packagesDispatched, same .dispatchMisses, same .handlerFailures,
    same .dispatchesCancelled, same .backpressureStalls, same .connectionsRefused⟩

/-- The counters of sessions that share them: how many were started, how many of these go on, how
many ended with a fault. Once all have ended none is counted as active any more, and the rejections
are the ends by an oversized header, each of which is a fault. Every counter is the sum of what the
sessions have counted, each for itself and as much as it did, and it does not depend on how their
moves interleaved. -/
theorem shared_counters_are_sums (played : Group.play {} steps = some group)
    (few : group.sessions.length < UInt64.size) :
    ∃ outcomes : List (Session Handler × List Signal),
      (shares steps).map Share.outcome? = outcomes.map some ∧
        group.sessions = outcomes.map Prod.fst ∧
        (∀ outcome ∈ outcomes, Contribution (ownMetrics outcome.2) outcome.2) ∧
        group.metrics.sessionsTotal.toNat = group.sessions.length ∧
        group.metrics.sessionsActive.toNat + group.sessions.countP Session.isFinished =
          group.sessions.length ∧
        group.metrics.sessionsFailed.toNat = group.sessions.countP Session.hasFailed ∧
        group.metrics.oversizedRejections.toNat = group.sessions.countP Session.hasRejected ∧
        ((∀ session ∈ group.sessions, session.isFinished = true) →
          group.metrics.sessionsActive = 0 ∧
            group.metrics.oversizedRejections.toNat =
              group.sessions.countP Session.hasFailedOversized ∧
            group.metrics.oversizedRejections ≤ group.metrics.sessionsFailed) ∧
        (∀ counter : Counter, counter.read group.metrics =
          totalOf (fun outcome => counter.read (ownMetrics outcome.2)) outcomes) ∧
        ∀ others other, Group.play {} others = some other → shares others = shares steps →
          other.metrics = group.metrics := by
  obtain ⟨outcomes, parted⟩ := parted_start.play played
  rw [List.nil_append] at parted
  have total : group.metrics.sessionsTotal.toNat = group.sessions.countP fun _ => true :=
    parted.read_eq few .sessionsTotal fun outcome member =>
      (parted.enrolled member).2.total
  have active : group.metrics.sessionsActive.toNat =
      group.sessions.countP fun session => !session.isFinished := by
    refine parted.read_eq few .sessionsActive fun outcome member => ?_
    refine (parted.enrolled member).2.active.trans ?_
    cases outcome.1.isFinished <;> rfl
  have failed : group.metrics.sessionsFailed.toNat = group.sessions.countP Session.hasFailed :=
    parted.read_eq few .sessionsFailed fun outcome member =>
      (parted.enrolled member).2.failed
  have rejected : group.metrics.oversizedRejections.toNat =
      group.sessions.countP Session.hasRejected :=
    parted.read_eq few .oversizedRejections fun outcome member =>
      (parted.enrolled member).2.rejected
  refine ⟨outcomes, parted.alone, parted.sessions, fun outcome _ => contribution_ownMetrics outcome.2,
    ?_, ?_, failed, rejected, fun ended => ?_, parted.counted, fun others other reached same => ?_⟩
  · rw [total, List.countP_true]
  · have whole := group.sessions.length_eq_countP_add_countP Session.isFinished
    simp only [Bool.not_eq_true, Bool.decide_eq_false] at whole
    omega
  · have none : (group.sessions.countP fun session => !session.isFinished) = 0 := by
      refine List.countP_eq_zero.mpr fun session member => ?_
      simp [ended session member]
    have results : group.sessions.countP Session.hasRejected =
        group.sessions.countP Session.hasFailedOversized := by
      refine List.countP_congr fun session member => ?_
      have finished := ended session member
      rw [parted.sessions] at member
      obtain ⟨outcome, inside, rfl⟩ := List.mem_map.mp member
      rw [(parted.enrolled inside).1.hasRejected_eq finished]
    refine ⟨UInt64.toNat_inj.mp (active.trans none), rejected.trans results, ?_⟩
    rw [UInt64.le_iff_toNat_le, failed, rejected, results]
    exact List.countP_mono_left fun session _ => hasFailed_of_oversized
  · obtain ⟨again, apart⟩ := parted_start.play reached
    rw [List.nil_append] at apart
    have alone := apart.alone
    rw [same, parted.alone] at alone
    obtain rfl : outcomes = again := (List.map_inj_right fun _ _ => Option.some.inj).mp alone
    exact metrics_ext fun counter => by rw [apart.counted, parted.counted]

/-- Two sessions; while the second one is told to close, the peer of the first one sends a header
that declares too much. -/
def sharedSteps : List (Move Unit) :=
  [.join narrowPlan 64, .join { narrowPlan with id := 2 } 64, .session 1 (.reader .check)] ++
    overlongMoves.map (.session 0) ++ [.session 1 (.outer .cancel), .pass 5] ++
    (.reader .leave :: partingMoves).map (.session 1)

theorem shared_counters_are_sums_over_two :
    ∃ group : Group Unit, Group.play {} sharedSteps = some group ∧
      group.sessions.length < UInt64.size ∧ group.metrics.sessionsTotal.toNat = 2 ∧
      group.metrics.sessionsActive = 0 ∧ group.metrics.sessionsFailed.toNat = 1 ∧
      group.metrics.oversizedRejections.toNat = 1 := by
  obtain ⟨group, played, length, failures, rejections, ended⟩ :
      ∃ group : Group Unit, Group.play {} sharedSteps = some group ∧ group.sessions.length = 2 ∧
        group.sessions.countP Session.hasFailed = 1 ∧
        group.sessions.countP Session.hasRejected = 1 ∧
        group.sessions.all Session.isFinished = true := ⟨_, rfl, rfl, rfl, rfl, rfl⟩
  have few : group.sessions.length < UInt64.size := by
    rw [length]
    decide
  obtain ⟨-, -, -, -, total, -, failed, rejected, whole, -⟩ := shared_counters_are_sums played few
  obtain ⟨none, -⟩ := whole (List.all_eq_true.mp ended)
  exact ⟨group, played, few, total.trans length, none, failed.trans failures,
    rejected.trans rejections⟩

end Group

end Courier.Session
