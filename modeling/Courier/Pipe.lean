import Courier.Bytes

/-! A pipe of bytes in one direction, holding at most so many. Once either end has closed it
nothing more is written, and what it holds can still be read. -/
namespace Courier

structure Pipe where
  capacity : Nat
  content : Bytes := []
  closed : Bool := false
  deriving DecidableEq, Repr

namespace Pipe

def room (pipe : Pipe) : Nat :=
  pipe.capacity - pipe.content.length

/-- Nothing is left to read, and nothing will come. -/
def atEnd (pipe : Pipe) : Bool :=
  pipe.closed && pipe.content.isEmpty

def close (pipe : Pipe) : Pipe :=
  { pipe with closed := true }

def write (pipe : Pipe) (bytes : Bytes) : Pipe :=
  { pipe with content := pipe.content ++ bytes }

/-- Take up to `count` bytes out. -/
def read (pipe : Pipe) (count : Nat) : Bytes × Pipe :=
  (pipe.content.take count, { pipe with content := pipe.content.drop count })

end Pipe
end Courier
