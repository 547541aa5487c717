import Courier.Header

/-! The unit of exchange. The declared length is a field of its own, so that a package built by
hand can disagree with its body; such a package is refused before it is encoded. -/
namespace Courier

structure Package extends Header where
  body : Bytes
  deriving DecidableEq, Repr

namespace Package

def empty (id : UInt16) (kind : UInt8) : Package :=
  { bodyLength := 0, id, kind, body := [] }

/-- The package with this body, when its length fits the header. -/
def ofBody? (id : UInt16) (kind : UInt8) (body : Bytes) : Option Package :=
  if body.length < UInt16.size then
    some { bodyLength := UInt16.ofNat body.length, id, kind, body }
  else
    none

/-- The length of the frame that carries the body as it is. -/
def frameLength (package : Package) : Nat :=
  Header.size + package.body.length

def toBytes (package : Package) : Bytes :=
  package.toHeader.toBytes ++ package.body

@[simp] theorem length_toBytes (package : Package) :
    package.toBytes.length = package.frameLength := by
  simp [toBytes, frameLength]

end Package
end Courier
