import Courier.Proofs.Decoding
import Courier.Proofs.Session.Coherence

namespace Courier.Session

open Courier.Frame (Accounts scan)

variable {Handler : Type}

namespace Signal

def bytes : Signal → Bytes
  | .received bytes => bytes
  | _ => []

def decodes : Signal → List Package
  | .decoded package => [package]
  | _ => []

def takes : Signal → List Package
  | .taken package => [package]
  | _ => []

def abandons : Signal → List Package
  | .abandoned package => [package]
  | _ => []

end Signal

/-- The bytes that the reader took from the transport. -/
abbrev receivedIn (signals : List Signal) : Bytes := signals.flatMap Signal.bytes

abbrev decodedIn (signals : List Signal) : List Package := signals.flatMap Signal.decodes

abbrev takenIn (signals : List Signal) : List Package := signals.flatMap Signal.takes

/-- The packages that the reader let go of because the session was closing. -/
abbrev abandonedIn (signals : List Signal) : List Package := signals.flatMap Signal.abandons

/-- Signals of the way out say nothing about the way in. -/
theorem flatMap_outward {pick : Signal → List α} {signals : List Signal}
    (blind : ∀ signal : Signal, signal.isOutward = true → pick signal = [])
    (outward : ∀ signal ∈ signals, signal.isOutward = true) : signals.flatMap pick = [] :=
  List.flatMap_eq_nil_iff.mpr fun signal member => blind signal (outward signal member)

/-- What the reader knows of its decoder at each of its stages. -/
def Reader.Knows (limit : UInt16) (bytes : Bytes) (decoder : Frame.Decoder) : Reader → Prop
  | .checking | .stalled | .reading | .ended .peerClosed =>
    decoder.Rests ∧ decoder.isCorrupt = false
  | .scanning | .holding _ | .ended .localClose | .ended (.failed (.io _)) =>
    decoder.isCorrupt = false
  | .ended (.failed (.oversized declared max)) =>
    decoder.Rests ∧ (scan limit bytes).2 = .oversized declared ∧ max = limit
  | .ended (.failed _) => False

/-- The bytes read are accounted for by the packages decoded and by what the decoder faces. -/
structure Intake (session : Session Handler) (signals : List Signal) : Prop where
  accounts :
    Accounts session.plan.bodyLimit (receivedIn signals) (decodedIn signals) session.decoder
  reader : session.reader.Knows session.plan.bodyLimit (receivedIn signals) session.decoder

variable {start session next : Session Handler} {moves : List Move} {move : Move}
  {signals more : List Signal}

theorem Aside.noBytes (same : Aside session next more) : more.flatMap Signal.bytes = [] :=
  flatMap_outward (by rintro ⟨⟩ <;> simp [Signal.isOutward, Signal.bytes]) same.outward

theorem Aside.noPackages (same : Aside session next more) : more.flatMap Signal.decodes = [] :=
  flatMap_outward (by rintro ⟨⟩ <;> simp [Signal.isOutward, Signal.decodes]) same.outward

theorem intake_start {plan : Plan Handler} {pipe : Nat} (opened : plan.start pipe = .ok start) :
    Intake start [] := by
  obtain ⟨-, rfl⟩ := start_eq_ok_iff.mp opened
  exact ⟨.start _, rfl, rfl⟩

/-- The decoder of a reader that goes on is sound, so that its only fault is a rejection. -/
theorem Intake.rejects (intake : Intake session signals) (at_ : session.reader = .scanning)
    {decoder : Frame.Decoder} {fault : Fault}
    (pulled : session.decoder.pull = (decoder, .error fault)) :
    ∃ declared, fault = .oversized declared session.plan.bodyLimit ∧
      (scan session.plan.bodyLimit (receivedIn signals)).2 = .oversized declared := by
  have sound := intake.reader
  simp only [at_, Reader.Knows] at sound
  obtain ⟨-, -, -, ⟨-, corrupt⟩ | ⟨declared, same, -, stopped⟩⟩ := intake.accounts.fault pulled
  · rw [sound] at corrupt
    cases corrupt
  · exact ⟨declared, same, stopped⟩

theorem Intake.change (intake : Intake session signals) (change : Change session move next more) :
    Intake next (signals ++ more) := by
  have accounts := intake.accounts
  have reader := intake.reader
  cases change with
  | look at_ | await at_ | resume at_ | release at_ =>
    refine ⟨by simpa [Signal.bytes, Signal.decodes] using accounts, ?_⟩
    simpa [at_, Reader.Knows, Signal.bytes] using reader
  | read at_ =>
    simp only [at_, Reader.Knows] at reader
    constructor
    · simpa [Signal.bytes, Signal.decodes] using accounts.push _
    · exact (Frame.isCorrupt_push _ _).trans reader.2
  | meetEnd at_ | meetFault at_ | abandon _ at_ =>
    rw [endReading_eq]
    refine ⟨by simpa [Signal.bytes, Signal.decodes] using accounts, ?_⟩
    simp only [at_, Reader.Knows] at reader
    simp [Reader.Knows, reader]
  | leave _ at_ =>
    rw [endReading_eq]
    refine ⟨by simpa using accounts, ?_⟩
    rcases at_ with at_ | at_ <;> simp only [at_, Reader.Knows] at reader <;>
      simp [Reader.Knows, reader]
  | wait at_ pulled =>
    obtain ⟨moved, rests, -, after⟩ := accounts.waiting pulled
    exact ⟨by simpa using moved, rests, after⟩
  | store at_ pulled =>
    obtain ⟨moved, -, after⟩ := accounts.package pulled
    refine ⟨by simpa [Signal.bytes, Signal.decodes] using moved, ?_⟩
    simpa [at_, Reader.Knows] using after
  | hold at_ pulled =>
    obtain ⟨moved, -, after⟩ := accounts.package pulled
    exact ⟨by simpa [Signal.bytes, Signal.decodes] using moved, after⟩
  | reject at_ pulled =>
    obtain ⟨declared, same, stopped⟩ := intake.rejects at_ pulled
    obtain ⟨moved, rests, -⟩ := accounts.fault pulled
    cases same
    rw [endReading_eq]
    refine ⟨by simpa [Signal.bytes, Signal.decodes] using moved, rests, ?_, rfl⟩
    simpa [Signal.bytes] using stopped
  | fault at_ pulled other =>
    obtain ⟨declared, same, -⟩ := intake.rejects at_ pulled
    exact absurd same (other _ _)
  | take | skip | assign | start | miss | finish | stop | join | joinLate | hurry | giveUp | close
  | cancel | peerWrite | peerShut | peerDrop =>
    exact ⟨by simpa [Signal.bytes, Signal.decodes] using accounts,
      by simpa [Signal.bytes] using reader⟩
  | aside _ same =>
    constructor
    · simpa [same.noBytes, same.noPackages, same.plan, same.decoder] using accounts
    · simpa [same.noBytes, same.plan, same.decoder, same.reader] using reader

def Reader.held : Reader → List Package
  | .holding package => [package]
  | _ => []

/-- No package is lost or doubled between decoder and worker. A package is dropped only by a reader
that leaves a closing session, and then it is the last one. -/
structure Flow (session : Session Handler) (signals : List Signal) : Prop where
  order : takenIn signals ++ session.queue ++ (session.reader.held ++ abandonedIn signals) =
    decodedIn signals
  dropped : abandonedIn signals = [] ∨
    (session.reader = .ended .localClose ∧ session.cancelled = true ∧
      (abandonedIn signals).length = 1)

theorem flow_start {plan : Plan Handler} {pipe : Nat} (opened : plan.start pipe = .ok start) :
    Flow start [] := by
  obtain ⟨-, rfl⟩ := start_eq_ok_iff.mp opened
  exact ⟨rfl, .inl rfl⟩

theorem Flow.change (flow : Flow session signals) (change : Change session move next more) :
    Flow next (signals ++ more) := by
  have order := flow.order
  have dropped := flow.dropped
  cases change with
  | look at_ | await at_ | resume at_ | read at_ | wait at_ | store at_ | hold at_ | release at_ =>
    simp only [at_, Reader.held, reduceCtorEq, false_and, or_false] at order dropped
    constructor <;>
      simp [at_, dropped, ← order, Reader.held, Signal.takes, Signal.abandons, Signal.decodes]
  | meetEnd at_ | meetFault at_ | reject at_ | fault at_ | abandon _ at_ =>
    simp only [at_, Reader.held, reduceCtorEq, false_and, or_false] at order dropped
    rw [endReading_eq]
    constructor <;>
      simp [dropped, ← order, Reader.held, Signal.takes, Signal.abandons, Signal.decodes]
  | leave _ at_ =>
    rw [endReading_eq]
    rcases at_ with at_ | at_ <;>
      simp only [at_, Reader.held, reduceCtorEq, false_and, or_false] at order dropped <;>
      constructor <;> simp [dropped, ← order, Reader.held]
  | take _ first =>
    refine ⟨?_, by simpa [Signal.abandons] using dropped⟩
    simp [← order, first, Signal.takes, Signal.abandons, Signal.decodes]
  | skip | assign | start | miss | finish | stop | joinLate | hurry | giveUp | close | peerWrite
  | peerShut | peerDrop =>
    constructor
    · simpa [Signal.takes, Signal.abandons, Signal.decodes] using order
    · simpa [Signal.abandons] using dropped
  | join | cancel =>
    constructor
    · simpa [Signal.takes, Signal.abandons, Signal.decodes] using order
    · rcases dropped with none | ⟨left, -, one⟩
      · exact .inl (by simpa [Signal.abandons] using none)
      · exact .inr ⟨left, rfl, by simpa [Signal.abandons] using one⟩
  | aside _ same =>
    have noTaken : more.flatMap Signal.takes = [] :=
      flatMap_outward (by rintro ⟨⟩ <;> simp [Signal.isOutward, Signal.takes]) same.outward
    have noDropped : more.flatMap Signal.abandons = [] :=
      flatMap_outward (by rintro ⟨⟩ <;> simp [Signal.isOutward, Signal.abandons]) same.outward
    constructor
    · simpa [noTaken, noDropped, same.noPackages, same.queue, same.reader] using order
    · simpa [noDropped, same.reader, same.cancelled] using dropped

end Courier.Session
