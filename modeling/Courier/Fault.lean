import Courier.Numeral
import Courier.Route.Key
import Courier.Settings.Problem

namespace Courier

inductive Refusal where
  | bodyBeyondWord (length : Nat)
  | lengthMismatch (declared : UInt16) (actual : Nat)
  | overLimit (declared limit : UInt16)
  | stated (reason : String)
  deriving DecidableEq, Repr

def Refusal.message : Refusal → String
  | .bodyBeyondWord length =>
    "Body does not fit in a 16-bit length field: " ++ toString length ++ " bytes"
  | .lengthMismatch declared actual =>
    "Declared body length does not match body: declared " ++ toString declared ++
      " bytes, body has " ++ toString actual
  | .overLimit declared limit =>
    "Body exceeds maximum body length: " ++ toString declared ++ " > " ++ toString limit
  | .stated reason => reason

/-- What a configuration document holds that it should not. -/
inductive DocumentFlaw where
  | malformed
  | unknownVariant (found first second : String)
  | unknownLevel (found : String)
  deriving DecidableEq, Repr

def DocumentFlaw.message : DocumentFlaw → String
  | .malformed => "Failed to parse TOML"
  | .unknownVariant found first second =>
    "Failed to parse TOML: unknown variant `" ++ found ++ "`, expected `" ++ first ++
      "` or `" ++ second ++ "`"
  | .unknownLevel found => "Failed to parse TOML: Invalid log level: " ++ found

/-- Why a configuration, or what is set up from one, is refused. -/
inductive SetupFault where
  | invalid (problems : List Settings.Problem)
  | invalidSession (problems : List Settings.Problem)
  | bodyLimitVariable (flaw : Numeral.Flaw)
  | document (flaw : DocumentFlaw)
  | fileMissing
  | fileNotText
  | fileNotWritten
  | notWritable
  | loggerInstalled
  | exactRouteUnderKindOnly (id : UInt16) (kind : UInt8)
  | duplicateRoute (key : Route.Key)
  | stated (reason : String)
  deriving DecidableEq, Repr

def SetupFault.message : SetupFault → String
  | .invalid problems =>
    "Configuration validation failed:\n  - " ++
      "\n  - ".intercalate (problems.map Settings.Problem.message)
  | .invalidSession problems =>
    "Invalid session configuration: " ++
      "; ".intercalate (problems.map Settings.Problem.message)
  | .bodyLimitVariable flaw => "Invalid PACKAGE_PROTOCOL_MAX_BODY_LENGTH: " ++ flaw.message
  | .document flaw => flaw.message
  | .fileMissing => "Failed to open config file"
  | .fileNotText => "Failed to read config file"
  | .fileNotWritten => "Failed to write config file"
  | .notWritable => "Failed to serialize config"
  | .loggerInstalled => "Failed to install logger"
  | .exactRouteUnderKindOnly id kind =>
    "Id-specific route cannot be registered under the type_only routing policy (id=" ++
      toString id ++ " type=" ++ toString kind ++ ")"
  | .duplicateRoute key => "Handler already registered for route: " ++ key.describe
  | .stated reason => reason

inductive Fault where
  | io (reason : String)
  | oversized (declared limit : UInt16)
  | corrupt
  | unencodable (refusal : Refusal)
  | unroutable (id : UInt16) (kind : UInt8)
  | handlerFailed (reason : String)
  | connectionClosed
  | setup (fault : SetupFault)
  | custom (reason : String)
  deriving DecidableEq, Repr

namespace Fault

def message : Fault → String
  | .io reason => "I/O error: " ++ reason
  | .oversized declared limit =>
    "Message body of " ++ toString declared ++ " bytes exceeds maximum of " ++
      toString limit ++ " bytes"
  | .corrupt => "Decoder is corrupt and cannot accept further input"
  | .unencodable refusal => "Encode validation failed: " ++ refusal.message
  | .unroutable id kind =>
    "No handler registered for id=" ++ toString id ++ " type=" ++ toString kind
  | .handlerFailed reason => "Handler failed: " ++ reason
  | .connectionClosed => "Connection closed"
  | .setup fault => "Configuration error: " ++ fault.message
  | .custom reason => "Custom error: " ++ reason

/-- A part of a session is gone that another part relies on. -/
def partGone : Fault :=
  .custom "Session task terminated abnormally"

/-- A stream whose frames can no longer be told apart ends its session. -/
def endsSession : Fault → Bool
  | .oversized .. | .corrupt => true
  | _ => false

end Fault
end Courier
