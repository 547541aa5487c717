import Courier.Frame.Decoder
import Courier.Frame.Encoding
import Courier.Log

namespace Courier.Frame

structure Codec where
  reader : Reader
  deriving DecidableEq, Repr

/-- What the end of a stream leaves: one more package, nothing, or an incomplete frame whose bytes
are discarded. -/
inductive Ending where
  | package (package : Package)
  | clean
  | discarded (count : Nat)
  deriving DecidableEq, Repr

def Ending.package? : Ending → Option Package
  | .package found => some found
  | _ => none

namespace Codec

def ofLimit (limit : UInt16) : Codec :=
  ⟨{ limit }⟩

def isCorrupt (codec : Codec) : Bool := codec.reader.isCorrupt

def decode (codec : Codec) (buffer : Bytes) : Codec × Bytes × Pull :=
  let (reader, rest, result) := codec.reader.pull buffer
  (⟨reader⟩, rest, result)

/-- Decode when no more bytes will come. An incomplete frame is a normal end: it is dropped and the
codec is ready for another stream. -/
def decodeEnd (codec : Codec) (buffer : Bytes) : Codec × Bytes × Except Fault Ending :=
  match codec.decode buffer with
  | (codec, rest, .error fault) => (codec, rest, .error fault)
  | (codec, rest, .ok (some package)) => (codec, rest, .ok (.package package))
  | (codec, rest, .ok none) =>
    if rest.isEmpty && !codec.reader.isMidFrame then
      (codec, rest, .ok .clean)
    else
      (⟨codec.reader.reset⟩, [], .ok (.discarded rest.length))

def encode (codec : Codec) (package : Package) (buffer : Bytes) : Except Fault Unit × Bytes :=
  package.encodeInto codec.reader.limit buffer

end Codec

/-- The record of a frame that is rejected for its declared length. -/
def rejectionRecord (declared limit : UInt16) : LogRecord :=
  ⟨.warn, "Rejecting oversized frame",
    [("declared", .number declared.toNat), ("max", .number limit.toNat)]⟩

/-- What decoding reports besides its result. -/
def faultRecords : Except Fault α → List LogRecord
  | .error (.oversized declared limit) => [rejectionRecord declared limit]
  | _ => []

def endingRecords : Except Fault Ending → List LogRecord
  | .ok (.discarded count) =>
    [⟨.debug, "Stream ended mid-frame, discarding partial bytes", [("bytes", .number count)]⟩]
  | result => faultRecords result

end Courier.Frame
