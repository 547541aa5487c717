import Courier.Duration
import Courier.Log
import Courier.Route.Table

namespace Courier
namespace Settings

structure Framing where
  maxBodyLength : UInt16 := 16384
  deriving DecidableEq, Repr

structure Dispatch where
  routing : Route.Policy := .idAndKind
  missPolicy : Route.MissPolicy := .report
  deriving DecidableEq, Repr

structure Session where
  dispatchQueueLimit : UInt64 := 32
  outboundQueueLimit : UInt64 := 64
  readBufferSize : UInt64 := 8192
  shutdownTimeout : Duration := .ofMillis 5000
  deriving DecidableEq, Repr

structure Server where
  address : String := "127.0.0.1:9000"
  maxConnections : UInt64 := 1000
  deriving DecidableEq, Repr

structure Logging where
  appName : String := "package-protocol"
  logLevel : LogLevel := .info
  jsonFormat : Bool := false
  deriving DecidableEq, Repr

end Settings

structure Settings where
  framing : Settings.Framing := {}
  dispatch : Settings.Dispatch := {}
  session : Settings.Session := {}
  server : Settings.Server := {}
  logging : Settings.Logging := {}
  deriving DecidableEq, Repr

end Courier
