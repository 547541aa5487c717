import Courier.Fault
import Courier.Settings
import Courier.Toml.Quoting

/-! Settings as a TOML document: all sections and fields in their order, sections separated by an
empty line. TOML has no integers beyond 63 bits, so such a value is refused; the timeout is written
in milliseconds modulo 64 bits. -/
namespace Courier.Settings

def integerText? (value : Nat) : Option (List Char) :=
  if value ≤ 9223372036854775807 then some (toString value).toList else none

def flagText (value : Bool) : List Char :=
  (if value then "true" else "false").toList

def routingName : Route.Policy → String
  | .idAndKind => "id_and_type"
  | .kindOnly => "type_only"

def missPolicyName : Route.MissPolicy → String
  | .report => "report"
  | .silent => "silent"

def line (name : String) (value : List Char) : List Char :=
  name.toList ++ " = ".toList ++ value ++ ['\n']

def header (name : String) : List Char :=
  ['['] ++ name.toList ++ [']', '\n']

def Framing.text? (framing : Framing) : Option (List Char) := do
  return header "framing" ++
    line "max_body_length" (← integerText? framing.maxBodyLength.toNat)

def Dispatch.text (dispatch : Dispatch) : List Char :=
  header "dispatch" ++
    line "routing" (Toml.quote (routingName dispatch.routing).toList) ++
    line "miss_policy" (Toml.quote (missPolicyName dispatch.missPolicy).toList)

def Session.text? (session : Session) : Option (List Char) := do
  return header "session" ++
    line "dispatch_queue_limit" (← integerText? session.dispatchQueueLimit.toNat) ++
    line "outbound_queue_limit" (← integerText? session.outboundQueueLimit.toNat) ++
    line "read_buffer_size" (← integerText? session.readBufferSize.toNat) ++
    line "shutdown_timeout" (← integerText? (session.shutdownTimeout.toMillis % UInt64.size))

def Server.text? (server : Server) : Option (List Char) := do
  return header "server" ++
    line "address" (Toml.quote server.address.toList) ++
    line "max_connections" (← integerText? server.maxConnections.toNat)

def Logging.text (logging : Logging) : List Char :=
  header "logging" ++
    line "app_name" (Toml.quote logging.appName.toList) ++
    line "log_level" (Toml.quote logging.logLevel.name.toList) ++
    line "json_format" (flagText logging.jsonFormat)

def text? (settings : Settings) : Option (List Char) := do
  return (← settings.framing.text?) ++ ['\n'] ++ settings.dispatch.text ++ ['\n'] ++
    (← settings.session.text?) ++ ['\n'] ++ (← settings.server.text?) ++ ['\n'] ++
    settings.logging.text

def toToml (settings : Settings) : Except Fault String :=
  match settings.text? with
  | some text => .ok (String.ofList text)
  | none => .error (.setup .notWritable)

/-- The text to save in a file, unless it cannot be made or the place does not take files. -/
def save (settings : Settings) (writable : Bool) : Except Fault String := do
  let text ← settings.toToml
  if writable then return text else throw (.setup .fileNotWritten)

/-- A document that shows every field with its default. -/
def exampleText : String :=
  match ({} : Settings).toToml with
  | .ok text => text
  | .error _ => "# Failed to generate example config"

end Courier.Settings
