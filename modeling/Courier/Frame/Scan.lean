import Courier.Package

/-! Reading a whole byte stream at once: the packages in it, and why reading stopped. The
incremental decoder is measured against this reading. -/
namespace Courier.Frame

/-- What ends the frames of a stream: too few bytes for another one, or a header that declares a
body over the limit. -/
inductive Stop where
  | incomplete
  | oversized (declared : UInt16)
  deriving DecidableEq, Repr

def scan (limit : UInt16) (bytes : Bytes) : List Package × Stop :=
  match _found : Header.read? bytes with
  | none => ([], .incomplete)
  | some (header, rest) =>
    if limit < header.bodyLength then
      ([], .oversized header.bodyLength)
    else
      match _split : Bytes.cut? header.bodyLength.toNat rest with
      | none => ([], .incomplete)
      | some (body, rest) =>
        let (packages, stop) := scan limit rest
        (⟨header, body⟩ :: packages, stop)
termination_by bytes.length
decreasing_by
  have size := Header.length_of_read? _found
  have sum := congrArg List.length (Bytes.cut?_eq_some_iff.mp _split).1
  simp only [Header.size, List.length_append] at size sum
  omega

end Courier.Frame
