import Courier.Fault
import Courier.Settings

/-! Settings from environment variables on top of the defaults. A malformed body limit is refused;
any other variable that cannot be read is ignored, as is a value that is no text. -/
namespace Courier.Settings

/-- The variables that are set to text. A value that is not UTF-8 is not text. -/
structure Environment where
  entries : List (String × ByteArray)

def Environment.text? (environment : Environment) (name : String) : Option String :=
  (environment.entries.lookup name).bind String.fromUTF8?

/-- The 64-bit number in a variable, if it holds one. -/
def Environment.word? (environment : Environment) (name : String) : Option UInt64 :=
  match (environment.text? name).map (Numeral.parse (UInt64.size - 1)) with
  | some (.ok value) => some (UInt64.ofNat value)
  | _ => none

def bodyLimitOf (environment : Environment) : Except Fault UInt16 :=
  match (environment.text? "PACKAGE_PROTOCOL_MAX_BODY_LENGTH").map
      (Numeral.parse (UInt16.size - 1)) with
  | none => .ok ({} : Framing).maxBodyLength
  | some (.ok value) => .ok (UInt16.ofNat value)
  | some (.error flaw) => .error (.setup (.bodyLimitVariable flaw))

def ofEnvironment (environment : Environment) : Except Fault Settings := do
  let maxBodyLength ← bodyLimitOf environment
  let session : Session := {}
  let server : Server := {}
  return {
    framing := { maxBodyLength }
    session := { session with
      dispatchQueueLimit :=
        (environment.word? "PACKAGE_PROTOCOL_DISPATCH_QUEUE_LIMIT").getD session.dispatchQueueLimit
      shutdownTimeout :=
        ((environment.word? "PACKAGE_PROTOCOL_SHUTDOWN_TIMEOUT_MS").map Duration.ofMillis).getD
          session.shutdownTimeout }
    server := { server with
      address := (environment.text? "PACKAGE_PROTOCOL_SERVER_ADDRESS").getD server.address } }

end Courier.Settings
