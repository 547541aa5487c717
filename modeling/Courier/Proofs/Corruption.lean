import Courier.Proofs.Duplex
import Courier.Proofs.Results

namespace Courier.Frame

def rejects {α : Type} : Except Fault α → Bool
  | .error (.oversized ..) => true
  | _ => false

/-- What a pull can do to a reader. -/
inductive Reader.Outcome (reader : Reader) (buffer : Bytes) : Reader × Bytes × Pull → Prop where
  | sound {stage : Stage} {rest : Bytes} {result : Option Package}
      (before : reader.isCorrupt = false)
      (after : Reader.isCorrupt { reader with stage } = false) :
      Outcome reader buffer ({ reader with stage }, rest, .ok result)
  | rejected {declared : UInt16} (before : reader.isCorrupt = false) :
      Outcome reader buffer
        ({ reader with stage := .corrupt }, [], .error (.oversized declared reader.limit))
  | corrupt (before : reader.isCorrupt = true) :
      Outcome reader buffer (reader, buffer, .error .corrupt)

private theorem outcome_pullBody {reader : Reader} (header : Header) (buffer rest : Bytes)
    (before : reader.isCorrupt = false) :
    reader.Outcome buffer (reader.pullBody header rest) := by
  unfold Reader.pullBody
  split
  · exact .sound before rfl
  · exact .sound before rfl

theorem Reader.outcome_pull (reader : Reader) (buffer : Bytes) :
    reader.Outcome buffer (reader.pull buffer) := by
  unfold Reader.pull
  split
  · rename_i at_
    exact .corrupt (by simp [isCorrupt, at_])
  · rename_i header at_
    exact outcome_pullBody header buffer buffer (by simp [isCorrupt, at_])
  · rename_i at_
    have before : reader.isCorrupt = false := by simp [isCorrupt, at_]
    split
    · have same : { reader with stage := .header } = reader := by rw [← at_]
      have kept : reader.Outcome buffer ({ reader with stage := .header }, buffer, .ok none) :=
        .sound before rfl
      rwa [same] at kept
    · split
      · exact .rejected before
      · exact outcome_pullBody _ buffer _ before

section Decoders

/-- A decoder has rejected a header if it is corrupt, and then it holds nothing. -/
structure Rejected (answers : List Answer) (decoder : Decoder) : Prop where
  once : answers.countP (Option.any rejects) = decoder.isCorrupt.toNat
  empty : decoder.isCorrupt = true → decoder.buffer = []

theorem rejected_lasting : Lasting fun _ => Rejected where
  push more held := by
    refine ⟨by rw [isCorrupt_push]; exact held.once, ?_⟩
    intro corrupt
    rw [isCorrupt_push] at corrupt
    simpa [Decoder.push, corrupt] using held.empty corrupt
  pull {_ answers decoder} held := by
    obtain ⟨once, empty⟩ := held
    have outcome := decoder.reader.outcome_pull decoder.buffer
    simp only [Decoder.pull]
    generalize decoder.reader.pull decoder.buffer = pulled at outcome ⊢
    simp only [Decoder.isCorrupt] at once empty
    cases outcome with
    | @sound stage rest result before still =>
      refine ⟨?_, by simp [Decoder.isCorrupt, still]⟩
      rw [before] at once
      cases result <;> simpa [Decoder.isCorrupt, still, answerOf, rejects] using once
    | rejected before =>
      rw [before] at once
      refine ⟨?_, fun _ => rfl⟩
      simp [Decoder.isCorrupt, Reader.isCorrupt, answerOf, rejects, once]
    | corrupt before =>
      refine ⟨?_, empty⟩
      simpa [Decoder.isCorrupt, answerOf, rejects] using once
  silent held := ⟨by simpa using held.once, held.empty⟩

/-- Once a sequence of packages has ended it stays so, and leaves the decoder alone. -/
theorem Packages.takeNext_of_ended {packages : Packages} (ended : packages.ended = true)
    (count : Nat) : packages.takeNext count = (packages, List.replicate count none) := by
  induction count with
  | zero => rfl
  | succ count ih => simp [takeNext, next, ended, ih, List.replicate_succ]

theorem Packages.ended_of_packageless {packages : Packages}
    (packageless : package? packages.next.2 = none) : packages.next.1.ended = true := by
  unfold next at packageless ⊢
  split
  · assumption
  · rename_i going
    rw [if_neg going] at packageless
    split <;> rename_i pulled
    · simp [pulled, package?] at packageless
    · rfl
    · rfl

def Operation.refusals : Operation → List Answer
  | .feed _ 0 => []
  | .feed _ (pulls + 1) => some (.error .corrupt) :: List.replicate pulls none
  | .pull => [some (.error .corrupt)]

theorem Decoder.operate_of_corrupt {decoder : Decoder} (corrupt : decoder.isCorrupt = true)
    (operation : Operation) : decoder.operate operation = (decoder, operation.refusals) := by
  have pulled := pull_of_corrupt corrupt
  cases operation with
  | pull => simp [operate, pulled, answerOf, Operation.refusals]
  | feed bytes pulls =>
    have pushed : decoder.push bytes = decoder := by simp [push, corrupt]
    cases pulls with
    | zero => simp [operate, feed, pushed, Packages.takeNext, Operation.refusals]
    | succ pulls =>
      have first : Packages.next ⟨decoder, false⟩ = (⟨decoder, true⟩, some (.error .corrupt)) := by
        simp [Packages.next, pulled]
      simp [operate, feed, pushed, Packages.takeNext, first, Packages.takeNext_of_ended,
        Operation.refusals]

theorem Decoder.operateAll_of_corrupt {decoder : Decoder} (corrupt : decoder.isCorrupt = true)
    (operations : List Operation) :
    decoder.operateAll operations = (decoder, operations.map Operation.refusals) := by
  induction operations with
  | nil => rfl
  | cons operation rest ih => simp [operateAll, operate_of_corrupt corrupt, ih]

end Decoders

namespace Duplex

def Reply.isRejection : Reply → Bool
  | .done => false
  | .decoded result => rejects result
  | .ended result => rejects result
  | .encoded result => rejects result

/-- What an operation can do to a codec: it may reject a header, once, and otherwise a corrupt codec
stays corrupt and a sound one sound. -/
structure Keeps (duplex next : Duplex) (rejection : Bool) : Prop where
  limit : next.codec.reader.limit = duplex.codec.reader.limit
  rejected : rejection = true →
    duplex.codec.isCorrupt = false ∧ next.codec.isCorrupt = true ∧ next.buffer = []
  otherwise : rejection = false → next.codec.isCorrupt = duplex.codec.isCorrupt

section Keeping

variable {duplex next : Duplex} (limit : next.codec.reader.limit = duplex.codec.reader.limit)
include limit

theorem Keeps.of_isCorrupt_eq (same : next.codec.isCorrupt = duplex.codec.isCorrupt) :
    Keeps duplex next false :=
  ⟨limit, fun rejection => (by cases rejection), fun _ => same⟩

theorem Keeps.of_rejection (before : duplex.codec.isCorrupt = false)
    (after : next.codec.isCorrupt = true) (empty : next.buffer = []) : Keeps duplex next true :=
  ⟨limit, fun _ => ⟨before, after, empty⟩, fun acceptance => (by cases acceptance)⟩

end Keeping

theorem Keeps.of_codec_eq {duplex next : Duplex} (same : next.codec = duplex.codec) :
    Keeps duplex next false :=
  .of_isCorrupt_eq (by rw [same]) (by rw [same])

private theorem keeps_decode (duplex : Duplex) :
    Keeps duplex (duplex.operate .decode).1 (duplex.operate .decode).2.isRejection := by
  have outcome := duplex.codec.reader.outcome_pull duplex.buffer
  simp only [operate, Codec.decode]
  generalize duplex.codec.reader.pull duplex.buffer = pulled at outcome ⊢
  cases outcome with
  | sound before after => exact .of_isCorrupt_eq rfl (after.trans before.symm)
  | rejected before => exact .of_rejection rfl before rfl rfl
  | corrupt => exact .of_codec_eq rfl

private theorem keeps_decodeEnd (duplex : Duplex) :
    Keeps duplex (duplex.operate .decodeEnd).1 (duplex.operate .decodeEnd).2.isRejection := by
  have outcome := duplex.codec.reader.outcome_pull duplex.buffer
  simp only [operate, Codec.decodeEnd, Codec.decode]
  generalize duplex.codec.reader.pull duplex.buffer = pulled at outcome ⊢
  cases outcome with
  | @sound stage rest result before after =>
    cases result with
    | some package => exact .of_isCorrupt_eq rfl (after.trans before.symm)
    | none =>
      dsimp only
      split
      · exact .of_isCorrupt_eq rfl (after.trans before.symm)
      · refine .of_isCorrupt_eq ?_ ?_
        · simp [Reader.reset, after]
        · simp only [Codec.isCorrupt, Reader.reset, after, before]
          rfl
  | rejected before => exact .of_rejection rfl before rfl rfl
  | corrupt => exact .of_codec_eq rfl

theorem keeps_operate (duplex : Duplex) (operation : Operation) :
    Keeps duplex (duplex.operate operation).1 (duplex.operate operation).2.isRejection := by
  cases operation with
  | append | clone | exchange => exact .of_codec_eq rfl
  | decode => exact keeps_decode duplex
  | decodeEnd => exact keeps_decodeEnd duplex
  | encode package =>
    have harmless : (duplex.operate (.encode package)).2.isRejection = false := by
      simp only [operate, Codec.encode, Package.encodeInto, Reply.isRejection]
      cases encoded : package.encode duplex.codec.reader.limit with
      | ok => rfl
      | error fault =>
        obtain ⟨refusal, rfl⟩ := Package.unencodable_of_encode encoded
        rfl
    rw [harmless]
    exact .of_codec_eq rfl

/-- Rejections are counted by the corruption that they leave behind. -/
theorem countP_operateAll (duplex : Duplex) (operations : List Operation) :
    (duplex.operateAll operations).2.countP Reply.isRejection + duplex.codec.isCorrupt.toNat =
        (duplex.operateAll operations).1.codec.isCorrupt.toNat ∧
      (duplex.operateAll operations).1.codec.reader.limit = duplex.codec.reader.limit := by
  induction operations generalizing duplex with
  | nil => simp [operateAll]
  | cons operation rest ih =>
    obtain ⟨later, limit⟩ := ih (duplex.operate operation).1
    have keeps := duplex.keeps_operate operation
    refine ⟨?_, limit.trans keeps.limit⟩
    cases rejection : (duplex.operate operation).2.isRejection with
    | true =>
      obtain ⟨before, after, -⟩ := keeps.rejected rejection
      simp only [operateAll, List.countP_cons, rejection, before, after] at later ⊢
      simpa using later
    | false =>
      rw [keeps.otherwise rejection] at later
      simpa [operateAll, List.countP_cons, rejection] using later

theorem operate_of_corrupt {duplex : Duplex} (corrupt : duplex.codec.isCorrupt = true) :
    duplex.operate .decode = (duplex, .decoded (.error .corrupt)) ∧
      duplex.operate .decodeEnd = (duplex, .ended (.error .corrupt)) := by
  have outcome := duplex.codec.reader.outcome_pull duplex.buffer
  have pulled : duplex.codec.reader.pull duplex.buffer =
      (duplex.codec.reader, duplex.buffer, .error .corrupt) := by
    generalize duplex.codec.reader.pull duplex.buffer = result at outcome ⊢
    cases outcome with
    | sound before | rejected before =>
      rw [Codec.isCorrupt, before] at corrupt
      cases corrupt
    | corrupt => rfl
  simp [operate, Codec.decode, Codec.decodeEnd, pulled]

/-- A corrupt codec does not change any more. -/
theorem codec_operateAll_of_corrupt {duplex : Duplex} (corrupt : duplex.codec.isCorrupt = true)
    (operations : List Operation) : (duplex.operateAll operations).1.codec = duplex.codec := by
  induction operations generalizing duplex with
  | nil => rfl
  | cons operation rest ih =>
    have same : (duplex.operate operation).1.codec = duplex.codec := by
      obtain ⟨decoded, ended⟩ := operate_of_corrupt corrupt
      cases operation with
      | append | encode | clone | exchange => rfl
      | decode => rw [decoded]
      | decodeEnd => rw [ended]
    have later : ((duplex.operate operation).1.operateAll rest).1.codec =
        (duplex.operate operation).1.codec := ih (by rw [same]; exact corrupt)
    exact later.trans same

end Duplex

/-- A decoder rejects at most one header, and exactly if it is corrupt. From then on it holds nothing
and never changes: each pull, and each sequence of packages once, answers that it is corrupt. A codec
does the same on a buffer that others may fill, at the end of the stream and in its clones, and
encodes as if it were new. A sequence of packages that has ended gives nothing more. -/
theorem corruption_terminal (limit : UInt16) :
    (∀ operations : List Operation,
      let (decoder, answers) := (Decoder.ofLimit limit).operateAll operations
      answers.flatten.countP (Option.any rejects) = decoder.isCorrupt.toNat ∧
        (decoder.isCorrupt = true → decoder.pending = 0 ∧
          ∀ later, decoder.operateAll later = (decoder, later.map Operation.refusals))) ∧
      (∀ operations : List Duplex.Operation,
        let (duplex, replies) := (Duplex.ofLimit limit).operateAll operations
        replies.countP Duplex.Reply.isRejection = duplex.codec.isCorrupt.toNat ∧
          (∀ operation, (duplex.operate operation).2.isRejection = true →
            (duplex.operate operation).1.buffer = []) ∧
          (duplex.codec.isCorrupt = true →
            duplex.operate .decode = (duplex, .decoded (.error .corrupt)) ∧
              duplex.operate .decodeEnd = (duplex, .ended (.error .corrupt)) ∧
              ∀ later, (duplex.operateAll later).1.codec = duplex.codec) ∧
          duplex.codec.encode = (Codec.ofLimit limit).encode) ∧
      ∀ packages : Packages, package? packages.next.2 = none →
        ∀ count, packages.next.1.takeNext count = (packages.next.1, List.replicate count none) := by
  refine ⟨fun operations => ?_, fun operations => ?_, fun packages packageless count => ?_⟩
  · have start : Rejected [] (Decoder.ofLimit limit) := ⟨rfl, nofun⟩
    obtain ⟨once, empty⟩ := @Lasting.operateAll _ [] [] rejected_lasting _ start operations
    refine ⟨by simpa using once, fun corrupt => ⟨?_, ?_⟩⟩
    · simp [Decoder.pending, empty corrupt]
    · exact Decoder.operateAll_of_corrupt corrupt
  · obtain ⟨once, same⟩ := (Duplex.ofLimit limit).countP_operateAll operations
    refine ⟨once, ?_, ?_, ?_⟩
    · intro operation rejection
      exact ((Duplex.keeps_operate _ operation).rejected rejection).2.2
    · intro corrupt
      obtain ⟨decoded, ended⟩ := Duplex.operate_of_corrupt corrupt
      exact ⟨decoded, ended, Duplex.codec_operateAll_of_corrupt corrupt⟩
    · funext package buffer
      simp only [Codec.encode, same]
      rfl
  · exact Packages.takeNext_of_ended (Packages.ended_of_packageless packageless) count

/-- A frame, and behind it a header that declares nine bytes. -/
def hostileBytes : Bytes :=
  [0, 1, 0, 7, 2, 65, 0, 9, 0, 8, 2, 1, 2, 3]

theorem corruption_terminal_behind_frame :
    let (decoder, answers) := (Decoder.ofLimit 4).operateAll [.feed hostileBytes 4]
    let (duplex, replies) := (Duplex.ofLimit 4).operateAll
      [.append hostileBytes, .decode, .decodeEnd, .clone, .append [0, 0, 0, 7, 2]]
    (answers = [[some (.ok ⟨⟨1, 7, 2⟩, [65]⟩), some (.error (.oversized 9 4)), none, none]] ∧
        decoder.operateAll [.feed [0, 0, 0, 7, 2] 2, .pull] =
          (decoder, [[some (.error .corrupt), none], [some (.error .corrupt)]])) ∧
      (replies.countP Duplex.Reply.isRejection = 1 ∧ duplex.buffer = [0, 0, 0, 7, 2] ∧
        duplex.operate .decodeEnd = (duplex, .ended (.error .corrupt))) ∧
      ∀ count, (Packages.next ⟨.ofLimit 4, false⟩).1.takeNext count =
        (⟨.ofLimit 4, true⟩, List.replicate count none) := by
  obtain ⟨decoders, codecs, sequences⟩ := corruption_terminal 4
  obtain ⟨-, terminal⟩ := decoders [.feed hostileBytes 4]
  obtain ⟨once, -, refused, -⟩ := codecs
    [.append hostileBytes, .decode, .decodeEnd, .clone, .append [0, 0, 0, 7, 2]]
  exact ⟨⟨rfl, (terminal rfl).2 _⟩, ⟨once, rfl, (refused rfl).2.1⟩, sequences _ rfl⟩

end Courier.Frame
