import Courier.Fault
import Courier.Package

namespace Courier.Package

def ofBody (id : UInt16) (kind : UInt8) (body : Bytes) : Except Fault Package :=
  match ofBody? id kind body with
  | some package => .ok package
  | none => .error (.unencodable (.bodyBeyondWord body.length))

def check (limit : UInt16) (package : Package) : Except Fault Unit :=
  if package.bodyLength.toNat ≠ package.body.length then
    .error (.unencodable (.lengthMismatch package.bodyLength package.body.length))
  else if limit < package.bodyLength then
    .error (.unencodable (.overLimit package.bodyLength limit))
  else
    .ok ()

def encode (limit : UInt16) (package : Package) : Except Fault Bytes := do
  package.check limit
  return package.toBytes

/-- Encode behind what `buffer` holds; a refused package leaves the buffer as it was. -/
def encodeInto (limit : UInt16) (package : Package) (buffer : Bytes) : Except Fault Unit × Bytes :=
  match package.encode limit with
  | .ok bytes => (.ok (), buffer ++ bytes)
  | .error fault => (.error fault, buffer)

end Courier.Package
