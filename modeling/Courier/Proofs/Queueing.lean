import Courier.Proofs.Duplex
import Courier.Proofs.Wire
import Mathlib.Data.List.Basic

namespace Courier

instance (limit : UInt16) (package : Package) : Decidable (package.Fits limit) :=
  decidable_of_iff
    (package.bodyLength.toNat = package.body.length ∧ ¬ limit < package.bodyLength)
    ⟨fun ⟨declared, within⟩ => ⟨declared, within⟩, fun fits => ⟨fits.declared, fits.within⟩⟩

namespace Frame

open Package (wire encodeAll)

/-- A pull at the front of a frame takes this frame and nothing else. -/
theorem Reader.pull_package {limit : UInt16} {package : Package} (fits : package.Fits limit)
    (rest : Bytes) :
    Reader.pull { limit } (package.toBytes ++ rest) = ({ limit }, rest, .ok (some package)) := by
  simp [Reader.pull, Package.toBytes, List.append_assoc, fits.within, Reader.pullBody,
    fits.cut?_body]

/-- Packages that keep the length rules, first in and first out. -/
structure Queue where
  limit : UInt16
  packages : List Package := []
  deriving DecidableEq, Repr

namespace Queue

def ofLimit (limit : UInt16) : Queue :=
  { limit }

inductive Operation where
  | put (package : Package)
  | take
  | clone
  deriving DecidableEq, Repr

inductive Reply where
  | stored
  | refused
  | taken (package : Option Package)
  | cloned
  deriving DecidableEq, Repr

def operate (queue : Queue) : Operation → Queue × Reply
  | .put package =>
    if package.Fits queue.limit then
      ({ queue with packages := queue.packages ++ [package] }, .stored)
    else
      (queue, .refused)
  | .take => ({ queue with packages := queue.packages.tail }, .taken queue.packages.head?)
  | .clone => (queue, .cloned)

def operateAll (queue : Queue) : List Operation → Queue × List Reply
  | [] => (queue, [])
  | operation :: rest =>
    let (next, reply) := queue.operate operation
    let (last, replies) := next.operateAll rest
    (last, reply :: replies)

def Operation.onCodec : Operation → Duplex.Operation
  | .put package => .encode package
  | .take => .decode
  | .clone => .clone

/-- The package that an operation adds to a queue. -/
def Operation.added? (limit : UInt16) : Operation → Option Package
  | .put package => if package.Fits limit then some package else none
  | .take | .clone => none

def Reply.package? : Reply → Option Package
  | .taken package => package
  | .stored | .refused | .cloned => none

end Queue

/-- What a codec's reply says about a queue. A queue never replies that decoding failed. -/
def Duplex.Reply.inQueue? : Duplex.Reply → Option Queue.Reply
  | .done => some .cloned
  | .encoded (.ok _) => some .stored
  | .encoded (.error (.unencodable _)) => some .refused
  | .decoded (.ok package) => some (.taken package)
  | .encoded (.error _) | .decoded (.error _) | .ended _ => none

namespace Queue

/-- The codec is as new, and the buffer holds the frames of the queue. -/
structure Represents (queue : Queue) (duplex : Duplex) : Prop where
  codec : duplex.codec = .ofLimit queue.limit
  buffer : duplex.buffer = wire queue.packages
  fits : ∀ package ∈ queue.packages, package.Fits queue.limit

variable {queue : Queue} {duplex : Duplex}

theorem Represents.put (represents : queue.Represents duplex) (package : Package) :
    (queue.operate (.put package)).1.Represents (duplex.operate (.encode package)).1 ∧
      (duplex.operate (.encode package)).2.inQueue? = some (queue.operate (.put package)).2 := by
  obtain ⟨codec, buffer, fits⟩ := represents
  have limit : duplex.codec.reader.limit = queue.limit := by rw [codec]; rfl
  by_cases keeps : package.Fits queue.limit
  · have encoded := Package.encode_eq_ok_iff.mpr ⟨keeps, rfl⟩
    simp only [Duplex.operate, Codec.encode, Package.encodeInto, limit, encoded, operate, keeps,
      if_true]
    have all := List.forall_mem_append.mpr ⟨fits, List.forall_mem_singleton.mpr keeps⟩
    exact ⟨⟨codec, by simp [buffer], all⟩, rfl⟩
  · cases encoded : package.encode queue.limit with
    | ok bytes => exact absurd (Package.encode_eq_ok_iff.mp encoded).1 keeps
    | error fault =>
      obtain ⟨refusal, rfl⟩ := Package.unencodable_of_encode encoded
      simp only [Duplex.operate, Codec.encode, Package.encodeInto, limit, encoded, operate, keeps,
        if_false]
      exact ⟨⟨codec, buffer, fits⟩, rfl⟩

theorem Represents.take (represents : queue.Represents duplex) :
    (queue.operate .take).1.Represents (duplex.operate .decode).1 ∧
      (duplex.operate .decode).2.inQueue? = some (queue.operate .take).2 := by
  obtain ⟨codec, buffer, fits⟩ := represents
  obtain ⟨limit, packages⟩ := queue
  obtain ⟨_, _⟩ := duplex
  simp only at codec buffer fits
  subst codec buffer
  cases packages with
  | nil => exact ⟨⟨rfl, rfl, by simp [operate]⟩, rfl⟩
  | cons package rest =>
    obtain ⟨first, others⟩ := List.forall_mem_cons.mp fits
    have pulled := Reader.pull_package first (wire rest)
    simp only [Duplex.operate, Codec.decode, Codec.ofLimit, Package.wire_cons, pulled]
    exact ⟨⟨rfl, rfl, others⟩, rfl⟩

theorem Represents.operate (represents : queue.Represents duplex) (operation : Operation) :
    (queue.operate operation).1.Represents (duplex.operate operation.onCodec).1 ∧
      (duplex.operate operation.onCodec).2.inQueue? = some (queue.operate operation).2 := by
  cases operation with
  | put package => exact represents.put package
  | take => exact represents.take
  | clone => exact ⟨represents, rfl⟩

theorem Represents.operateAll (represents : queue.Represents duplex)
    (operations : List Operation) :
    (queue.operateAll operations).1.Represents
        (duplex.operateAll (operations.map Operation.onCodec)).1 ∧
      (duplex.operateAll (operations.map Operation.onCodec)).2.map Duplex.Reply.inQueue? =
        (queue.operateAll operations).2.map some := by
  induction operations generalizing queue duplex with
  | nil => exact ⟨represents, rfl⟩
  | cons operation rest ih =>
    obtain ⟨next, reply⟩ := represents.operate operation
    obtain ⟨last, replies⟩ := ih next
    refine ⟨last, ?_⟩
    simp only [List.map_cons, Duplex.operateAll, Queue.operateAll, reply, replies]

@[simp] theorem limit_operate (queue : Queue) (operation : Operation) :
    (queue.operate operation).1.limit = queue.limit := by
  cases operation with
  | put package =>
    simp only [Queue.operate]
    split <;> rfl
  | take | clone => rfl

theorem limit_operateAll (queue : Queue) (operations : List Operation) :
    (queue.operateAll operations).1.limit = queue.limit := by
  induction operations generalizing queue with
  | nil => rfl
  | cons operation rest ih =>
    exact (ih _).trans (queue.limit_operate operation)

/-- What an operation adds comes behind what is there, and what it takes is the first of it. -/
theorem packages_operate (queue : Queue) (operation : Operation) :
    queue.packages ++ (operation.added? queue.limit).toList =
      (queue.operate operation).2.package?.toList ++ (queue.operate operation).1.packages := by
  cases operation with
  | put package =>
    by_cases fits : package.Fits queue.limit <;>
      simp [Queue.operate, fits, Operation.added?, Reply.package?]
  | take =>
    cases front : queue.packages <;>
      simp [Queue.operate, front, Operation.added?, Reply.package?]
  | clone => simp [Queue.operate, Operation.added?, Reply.package?]

theorem packages_operateAll (queue : Queue) (operations : List Operation) :
    queue.packages ++ operations.filterMap (Operation.added? queue.limit) =
      (queue.operateAll operations).2.filterMap Reply.package? ++
        (queue.operateAll operations).1.packages := by
  simp only [List.filterMap_eq_flatMap_toList]
  induction operations generalizing queue with
  | nil => simp [Queue.operateAll]
  | cons operation rest ih =>
    have later := ih (queue.operate operation).1
    rw [limit_operate] at later
    rw [List.flatMap_cons, ← List.append_assoc, packages_operate, List.append_assoc, later]
    simp only [Queue.operateAll, List.flatMap_cons, List.append_assoc]

end Queue

/-- Encoding into a buffer, decoding from it and cloning the codec reply as a queue does: a package
that keeps the length rules is stored and any other is refused, and decoding takes the oldest
package that is stored and has not been taken, or finds that there is none. The codec is always
between two frames and sound, and the buffer is the encoding of what is stored. -/
theorem codec_is_queue (limit : UInt16) (operations : List Queue.Operation) :
    let (duplex, replies) :=
      (Duplex.ofLimit limit).operateAll (operations.map Queue.Operation.onCodec)
    let (queue, answers) := (Queue.ofLimit limit).operateAll operations
    replies.map Duplex.Reply.inQueue? = answers.map some ∧
      operations.filterMap (Queue.Operation.added? limit) =
        answers.filterMap Queue.Reply.package? ++ queue.packages ∧
      duplex.codec = .ofLimit limit ∧ encodeAll limit queue.packages = .ok duplex.buffer := by
  have start : (Queue.ofLimit limit).Represents (.ofLimit limit) := ⟨rfl, rfl, nofun⟩
  obtain ⟨⟨codec, buffer, fits⟩, replies⟩ := start.operateAll operations
  have same := (Queue.ofLimit limit).limit_operateAll operations
  have taken := (Queue.ofLimit limit).packages_operateAll operations
  rw [same] at codec fits
  -- All that is stored keeps the length rules, so that encoding it anew does not fail.
  refine ⟨replies, taken, codec, ?_⟩
  exact Package.encodeAll_eq_ok_iff.mpr ⟨fits, buffer⟩

/-- A body that looks like a header, and a package whose declared length is wrong. -/
example :
    ((Duplex.ofLimit 9).operateAll
      [.encode ⟨⟨5, 8, 1⟩, [0, 0, 0, 9, 1]⟩, .encode ⟨⟨1, 7, 2⟩, []⟩, .clone,
        .encode ⟨⟨0, 1, 3⟩, []⟩, .decode]).1 =
      ⟨.ofLimit 9, [0, 0, 0, 1, 3]⟩ := by decide

end Frame
end Courier
