import Courier.Bytes

/-! The five bytes in front of every body: its length and the package's id, both big-endian,
and the package's kind. -/
namespace Courier

structure Header where
  bodyLength : UInt16
  id : UInt16
  kind : UInt8
  deriving DecidableEq, Repr

namespace Header

def size : Nat := 5

/-- The header in front of `bytes`, and what follows it. -/
def read? : Bytes → Option (Header × Bytes)
  | length₁ :: length₀ :: id₁ :: id₀ :: kind :: rest =>
    some (⟨Bytes.word length₁ length₀, Bytes.word id₁ id₀, kind⟩, rest)
  | _ => none

/-- Look at the header in front of `bytes` without consuming it. -/
def peek (bytes : Bytes) : Option Header :=
  (read? bytes).map Prod.fst

def toBytes (header : Header) : Bytes :=
  Bytes.ofWord header.bodyLength ++ Bytes.ofWord header.id ++ [header.kind]

def frameLength (header : Header) : Nat :=
  size + header.bodyLength.toNat

@[simp] theorem length_toBytes (header : Header) : header.toBytes.length = size := rfl

@[simp] theorem read?_toBytes_append (header : Header) (rest : Bytes) :
    read? (header.toBytes ++ rest) = some (header, rest) := by
  simp [toBytes, Bytes.ofWord, read?, Bytes.word_ofWord]

theorem length_of_read? {bytes rest : Bytes} {header : Header}
    (found : read? bytes = some (header, rest)) : bytes.length = size + rest.length := by
  unfold read? at found
  split at found
  · cases found; simp [size]; omega
  · cases found

end Header
end Courier
