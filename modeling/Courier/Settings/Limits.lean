import Courier.Fault
import Courier.Settings
import Courier.SocketAddress

/-! The limits of a configuration. Every section lists what it violates, in the order of its
fields; the timeout is measured in whole units and the name in bytes of UTF-8. -/
namespace Courier.Settings

/-- `problem`, when the condition holds. -/
def violation (violated : Prop) [Decidable violated] (problem : Problem) : List Problem :=
  if violated then [problem] else []

def Framing.problems (framing : Framing) : List Problem :=
  violation (framing.maxBodyLength = 0) .bodyLimitZero

def Session.problems (session : Session) : List Problem :=
  (if session.dispatchQueueLimit = 0 then [.dispatchQueueZero]
    else violation (1000000 < session.dispatchQueueLimit)
      (.dispatchQueueLarge session.dispatchQueueLimit)) ++
  violation (session.outboundQueueLimit = 0) .outboundQueueZero ++
  (if session.readBufferSize < 64 then [.readBufferSmall]
    else violation (16777216 < session.readBufferSize) .readBufferLarge) ++
  (if session.shutdownTimeout.toMillis < 10 then [.shutdownShort]
    else violation (60 < session.shutdownTimeout.seconds) .shutdownLong)

def Server.problems (server : Server) : List Problem :=
  (if server.address = "" then [.addressEmpty]
    else violation (SocketAddress.parse? server.address = none)
      (.addressInvalid server.address)) ++
  violation (server.maxConnections = 0) .connectionsZero

def Logging.problems (logging : Logging) : List Problem :=
  if logging.appName = "" then [.nameEmpty]
  else violation (64 < logging.appName.utf8ByteSize) (.nameLong logging.appName.utf8ByteSize)

def problems (settings : Settings) : List Problem :=
  settings.framing.problems ++ settings.session.problems ++ settings.server.problems ++
    settings.logging.problems

/-- Refuse a configuration that violates any limit. -/
def check (settings : Settings) : Except Fault Unit :=
  match settings.problems with
  | [] => .ok ()
  | problems => .error (.setup (.invalid problems))

/-- Refuse a configuration that violates a limit of framing or sessions, which is all that a single
session depends on. -/
def checkSession (settings : Settings) : Except Fault Unit :=
  match settings.framing.problems ++ settings.session.problems with
  | [] => .ok ()
  | problems => .error (.setup (.invalidSession problems))

end Courier.Settings
