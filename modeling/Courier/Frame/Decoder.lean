import Courier.Fault
import Courier.Package

/-! Incremental decoding. A reader holds how far it is into a frame and works on a buffer that
someone else may own; a decoder owns its buffer. Packages do not depend on how the stream was cut
into chunks, and after an oversized header nothing is read any more. -/
namespace Courier.Frame

inductive Stage where
  | header
  | body (header : Header)
  | corrupt
  deriving DecidableEq, Repr

abbrev Pull := Except Fault (Option Package)

structure Reader where
  limit : UInt16
  stage : Stage := .header
  deriving DecidableEq, Repr

namespace Reader

def isCorrupt (reader : Reader) : Bool :=
  match reader.stage with
  | .corrupt => true
  | _ => false

/-- A header has been accepted whose body is still incomplete. -/
def isMidFrame (reader : Reader) : Bool :=
  match reader.stage with
  | .body _ => true
  | _ => false

def pullBody (reader : Reader) (header : Header) (buffer : Bytes) : Reader × Bytes × Pull :=
  match Bytes.cut? header.bodyLength.toNat buffer with
  | none => ({ reader with stage := .body header }, buffer, .ok none)
  | some (body, rest) => ({ reader with stage := .header }, rest, .ok (some ⟨header, body⟩))

/-- Take one package off the front of `buffer`. An oversized header discards the whole buffer,
since what follows it can no longer be told apart into frames. -/
def pull (reader : Reader) (buffer : Bytes) : Reader × Bytes × Pull :=
  match reader.stage with
  | .corrupt => (reader, buffer, .error .corrupt)
  | .body header => reader.pullBody header buffer
  | .header =>
    match Header.read? buffer with
    | none => (reader, buffer, .ok none)
    | some (header, rest) =>
      if reader.limit < header.bodyLength then
        ({ reader with stage := .corrupt }, [], .error (.oversized header.bodyLength reader.limit))
      else
        reader.pullBody header rest

/-- Forget a frame that the end of the stream left incomplete. -/
def reset (reader : Reader) : Reader :=
  if reader.isCorrupt then reader else { reader with stage := .header }

/-- Bytes that a package may still be made of: the buffer, and an accepted header. -/
def weight (reader : Reader) (buffer : Bytes) : Nat :=
  buffer.length + if reader.isMidFrame then Header.size else 0

theorem weight_pullBody {reader after : Reader} {header : Header} {buffer rest : Bytes}
    {package : Package} (pulled : reader.pullBody header buffer = (after, rest, .ok (some package))) :
    after.weight rest + package.frameLength = buffer.length + Header.size := by
  unfold pullBody at pulled
  split at pulled
  · simp at pulled
  · rename_i body rest' split
    obtain ⟨rfl, rfl, same⟩ := pulled
    have sum := congrArg List.length (Bytes.cut?_eq_some_iff.mp split).1
    simp only [List.length_append] at sum
    simp [weight, isMidFrame, Package.frameLength, sum]
    omega

/-- A package weighs what it takes out of reader and buffer. -/
theorem weight_pull {reader after : Reader} {buffer rest : Bytes} {package : Package}
    (pulled : reader.pull buffer = (after, rest, .ok (some package))) :
    after.weight rest + package.frameLength = reader.weight buffer := by
  unfold pull at pulled
  split at pulled
  · simp at pulled
  · rename_i header stage
    simpa [weight, isMidFrame, stage] using weight_pullBody pulled
  · rename_i stage
    split at pulled
    · simp at pulled
    · rename_i header tail found
      split at pulled
      · simp at pulled
      · have size := Header.length_of_read? found
        have body := weight_pullBody pulled
        simp [weight, isMidFrame, stage] at body ⊢
        omega

end Reader

structure Decoder where
  reader : Reader
  buffer : Bytes := []
  deriving DecidableEq, Repr

namespace Decoder

def ofLimit (limit : UInt16) : Decoder :=
  { reader := { limit } }

def limit (decoder : Decoder) : UInt16 := decoder.reader.limit

/-- Bytes held that belong to no package and no accepted header yet. -/
def pending (decoder : Decoder) : Nat := decoder.buffer.length

def isCorrupt (decoder : Decoder) : Bool := decoder.reader.isCorrupt

def isMidFrame (decoder : Decoder) : Bool := decoder.reader.isMidFrame

def weight (decoder : Decoder) : Nat := decoder.reader.weight decoder.buffer

/-- Append to the buffer; a corrupt decoder ignores the bytes. -/
def push (decoder : Decoder) (bytes : Bytes) : Decoder :=
  if decoder.isCorrupt then decoder else { decoder with buffer := decoder.buffer ++ bytes }

def pull (decoder : Decoder) : Decoder × Pull :=
  let (reader, buffer, result) := decoder.reader.pull decoder.buffer
  (⟨reader, buffer⟩, result)

end Decoder

/-- The packages of a decoder taken one by one. The sequence ends for good at the first fault or
when bytes are missing, and what was not taken stays in the decoder. -/
structure Packages where
  decoder : Decoder
  ended : Bool := false
  deriving DecidableEq, Repr

namespace Packages

def next (packages : Packages) : Packages × Option (Except Fault Package) :=
  if packages.ended then
    (packages, none)
  else
    match packages.decoder.pull with
    | (decoder, .ok (some package)) => (⟨decoder, false⟩, some (.ok package))
    | (decoder, .ok none) => (⟨decoder, true⟩, none)
    | (decoder, .error fault) => (⟨decoder, true⟩, some (.error fault))

def weight (packages : Packages) : Nat :=
  if packages.ended then 0 else packages.decoder.weight + 1

theorem weight_next {packages after : Packages} {item : Except Fault Package}
    (taken : packages.next = (after, some item)) : after.weight < packages.weight := by
  unfold next at taken
  split at taken
  · simp at taken
  · rename_i going
    split at taken
    · rename_i decoder package pulled
      obtain ⟨rfl, -⟩ := taken
      have lighter : decoder.weight + package.frameLength = packages.decoder.weight := by
        simp only [Decoder.pull, Prod.mk.injEq] at pulled
        obtain ⟨rfl, result⟩ := pulled
        exact Reader.weight_pull (Prod.ext rfl (Prod.ext rfl result))
      simp only [Package.frameLength, Header.size] at lighter
      simp [weight, going]
      omega
    · simp at taken
    · obtain ⟨rfl, -⟩ := taken
      simp [weight, going]

/-- The next `count` answers, `none` once the sequence has ended. -/
def takeNext (packages : Packages) : Nat → Packages × List (Option (Except Fault Package))
  | 0 => (packages, [])
  | count + 1 =>
    let (packages, item) := packages.next
    let (packages, items) := packages.takeNext count
    (packages, item :: items)

/-- Take everything up to the end of the sequence. -/
def drain (packages : Packages) : Packages × List (Except Fault Package) :=
  match _taken : packages.next with
  | (after, none) => (after, [])
  | (after, some item) =>
    let (last, items) := after.drain
    (last, item :: items)
termination_by packages.weight
decreasing_by exact weight_next _taken

end Packages

def Decoder.feed (decoder : Decoder) (bytes : Bytes) : Packages :=
  { decoder := decoder.push bytes }

end Courier.Frame
