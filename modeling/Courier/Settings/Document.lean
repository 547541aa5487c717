import Courier.Fault
import Courier.Settings
import Courier.Toml.Document

/-! Settings from a TOML document on top of the defaults, field by field. Unknown keys are ignored,
and of several bad fields the one that is written first is reported. -/
namespace Courier.Settings

open Toml (Value)

abbrev Reading := Except DocumentFlaw

def readNumber (bound : Nat) : Value → Reading Nat
  | .integer value =>
    if 0 ≤ value ∧ value ≤ bound then .ok value.toNat else .error .malformed
  | _ => .error .malformed

def readWord (value : Value) : Reading UInt64 :=
  UInt64.ofNat <$> readNumber (UInt64.size - 1) value

def readText : Value → Reading String
  | .text value => .ok value
  | _ => .error .malformed

def readFlag : Value → Reading Bool
  | .flag value => .ok value
  | _ => .error .malformed

/-- One of two names, as a text or as the only key of a table with nothing under it. -/
def readChoice (first second : String × α) : Value → Reading α
  | .text name => pick name
  | .table _ [(name, .table _ [])] => pick name
  | .table _ [(name, .list [])] => pick name
  | .table _ [(name, _)] => do
    discard (pick name)
    .error .malformed
  | _ => .error .malformed
where
  pick (name : String) : Reading α :=
    if name = first.1 then .ok first.2
    else if name = second.1 then .ok second.2
    else .error (.unknownVariant name first.1 second.1)

def readLevel : Value → Reading LogLevel
  | .text name =>
    match LogLevel.parse? name with
    | some level => .ok level
    | none => .error (.unknownLevel name)
  | _ => .error .malformed

/-- A section is a table of named fields, or a list of fields in the order of `names`. A moment
counts as a table without any. -/
def readSection (names : List String) (set : σ → String → Value → Reading σ) (default : σ) :
    Value → Reading σ
  | .table _ entries => fill entries
  | .list values => fill (names.zip values)
  | .tables elements => fill (names.zip (elements.map (.table .opened)))
  | .moment _ => .ok default
  | _ => .error .malformed
where
  fill (pairs : List (String × Value)) : Reading σ :=
    pairs.foldlM (fun fields (name, value) => set fields name value) default

def Framing.set (framing : Framing) (name : String) (value : Value) : Reading Framing := do
  match name with
  | "max_body_length" =>
    return { framing with maxBodyLength := UInt16.ofNat (← readNumber (UInt16.size - 1) value) }
  | _ => return framing

def Dispatch.set (dispatch : Dispatch) (name : String) (value : Value) : Reading Dispatch := do
  match name with
  | "routing" =>
    return { dispatch with
      routing := ← readChoice ("id_and_type", .idAndKind) ("type_only", .kindOnly) value }
  | "miss_policy" =>
    return { dispatch with
      missPolicy := ← readChoice ("report", .report) ("silent", .silent) value }
  | _ => return dispatch

def Session.set (session : Session) (name : String) (value : Value) : Reading Session := do
  match name with
  | "dispatch_queue_limit" => return { session with dispatchQueueLimit := ← readWord value }
  | "outbound_queue_limit" => return { session with outboundQueueLimit := ← readWord value }
  | "read_buffer_size" => return { session with readBufferSize := ← readWord value }
  | "shutdown_timeout" =>
    return { session with shutdownTimeout := Duration.ofMillis (← readWord value) }
  | _ => return session

def Server.set (server : Server) (name : String) (value : Value) : Reading Server := do
  match name with
  | "address" => return { server with address := ← readText value }
  | "max_connections" => return { server with maxConnections := ← readWord value }
  | _ => return server

def Logging.set (logging : Logging) (name : String) (value : Value) : Reading Logging := do
  match name with
  | "app_name" => return { logging with appName := ← readText value }
  | "log_level" => return { logging with logLevel := ← readLevel value }
  | "json_format" => return { logging with jsonFormat := ← readFlag value }
  | _ => return logging

def Framing.read : Value → Reading Framing :=
  readSection ["max_body_length"] Framing.set {}

def Dispatch.read : Value → Reading Dispatch :=
  readSection ["routing", "miss_policy"] Dispatch.set {}

def Session.read : Value → Reading Session :=
  readSection
    ["dispatch_queue_limit", "outbound_queue_limit", "read_buffer_size", "shutdown_timeout"]
    Session.set {}

def Server.read : Value → Reading Server :=
  readSection ["address", "max_connections"] Server.set {}

def Logging.read : Value → Reading Logging :=
  readSection ["app_name", "log_level", "json_format"] Logging.set {}

def set (settings : Settings) (name : String) (value : Value) : Reading Settings := do
  match name with
  | "framing" => return { settings with framing := ← Framing.read value }
  | "dispatch" => return { settings with dispatch := ← Dispatch.read value }
  | "session" => return { settings with session := ← Session.read value }
  | "server" => return { settings with server := ← Server.read value }
  | "logging" => return { settings with logging := ← Logging.read value }
  | _ => return settings

def ofEntries (entries : Toml.Entries) : Reading Settings :=
  entries.foldlM (fun settings (name, value) => settings.set name value) {}

def ofToml (text : String) : Except Fault Settings :=
  match Toml.parse? text with
  | none => .error (.setup (.document .malformed))
  | some entries => (ofEntries entries).mapError fun flaw => .setup (.document flaw)

/-- Settings from the content of a file, which may be missing or not be text. -/
def ofFile (content : Option ByteArray) : Except Fault Settings :=
  match content with
  | none => .error (.setup .fileMissing)
  | some bytes =>
    match String.fromUTF8? bytes with
    | none => .error (.setup .fileNotText)
    | some text => ofToml text

end Courier.Settings
