import Courier.Frame.Codec

namespace Courier.Frame

structure Duplex where
  codec : Codec
  buffer : Bytes := []
  deriving DecidableEq, Repr

namespace Duplex

inductive Operation where
  | append (bytes : Bytes)
  | decode
  | decodeEnd
  | encode (package : Package)
  | clone
  /-- Go on with what others, such as clones, have left in the buffer. -/
  | exchange (buffer : Bytes)
  deriving DecidableEq, Repr

inductive Reply where
  | done
  | decoded (result : Pull)
  | ended (result : Except Fault Ending)
  | encoded (result : Except Fault Unit)
  deriving Repr

def ofLimit (limit : UInt16) : Duplex :=
  { codec := .ofLimit limit }

/-- A codec is nothing but its state, so that a clone is equal to it. -/
def operate (duplex : Duplex) : Operation → Duplex × Reply
  | .append bytes => ({ duplex with buffer := duplex.buffer ++ bytes }, .done)
  | .decode =>
    let (codec, buffer, result) := duplex.codec.decode duplex.buffer
    (⟨codec, buffer⟩, .decoded result)
  | .decodeEnd =>
    let (codec, buffer, result) := duplex.codec.decodeEnd duplex.buffer
    (⟨codec, buffer⟩, .ended result)
  | .encode package =>
    let (result, buffer) := duplex.codec.encode package duplex.buffer
    ({ duplex with buffer }, .encoded result)
  | .clone => (duplex, .done)
  | .exchange buffer => ({ duplex with buffer }, .done)

def operateAll (duplex : Duplex) : List Operation → Duplex × List Reply
  | [] => (duplex, [])
  | operation :: rest =>
    let (next, reply) := duplex.operate operation
    let (last, replies) := next.operateAll rest
    (last, reply :: replies)

end Duplex
end Courier.Frame
