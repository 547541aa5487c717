import Courier.Handler
import Courier.Log
import Courier.Route.Table

/-! Handing a package to the handler that the route table names. What a handler does takes place
in a monad of the caller's choice, so that a dispatch is the invocation of one handler or none. -/
namespace Courier

/-- What a handler sees of the session that it works for. -/
structure Context where
  session : UInt64
  cancelled : Bool
  deriving DecidableEq, Repr

namespace Dispatch

inductive Outcome where
  | handled
  | missed
  deriving DecidableEq, Repr

def missRecord (policy : Route.MissPolicy) (session : UInt64) (fault : Fault) : LogRecord :=
  let level :=
    match policy with
    | .report => LogLevel.warn
    | .silent => LogLevel.trace
  ⟨level, "Dropping unroutable package",
    [("session_id", .number session.toNat), ("error", .text fault.message)]⟩

/-- Run the handler of `package`, if there is one, and pass on how it ended. A missing route is
only logged. -/
def dispatch [Monad m] (call : Handler → Package → Context → m (Except ε Unit))
    (log : LogRecord → m Unit) (table : Route.Table Handler) (policy : Route.MissPolicy)
    (package : Package) (context : Context) : m (Except ε Outcome) := do
  match table.resolve package with
  | .error fault =>
    log (missRecord policy context.session fault)
    return .ok .missed
  | .ok handler =>
    match ← call handler package context with
    | .ok () => return .ok .handled
    | .error failure => return .error failure

/-- Why an invocation outside a session does not end well: it returned a fault, it panicked, or it
waits for something that will not come. -/
inductive Interruption where
  | fault (fault : Fault)
  | panicked
  | waiting
  deriving Repr

structure Trace where
  witnesses : List Witness := []
  records : List LogRecord := []
  deriving Repr

abbrev TraceM := StateM Trace

def witness (found : List Witness) : TraceM Unit :=
  modify fun trace => { trace with witnesses := trace.witnesses ++ found }

def log (record : LogRecord) : TraceM Unit :=
  modify fun trace => { trace with records := trace.records ++ [record] }

/-- How an invocation ends outside a session, where no time passes, there are no permits and
nothing can be sent; `none` when it waits for ever. -/
def settle (cancelled : Bool) (package : Package) : List Action → Option Verdict
  | [] => some (.returned (.ok ()))
  | action :: rest =>
    match action.demand package with
    | .pause 0 => settle cancelled package rest
    | .pause _ => none
    | .permit => none
    | .cancellation => if cancelled then settle cancelled package rest else none
    | .room _ => some (.returned (.error .connectionClosed))
    | .finish verdict => some verdict

def callAlone (handler : Handler) (package : Package) (context : Context) :
    TraceM (Except Interruption Unit) := do
  witness [.started handler.tag package context.session context.cancelled]
  match settle context.cancelled package handler.actions with
  | none => return .error .waiting
  | some verdict =>
    witness ((Invocation.start handler package).endWitness context.cancelled verdict)
    match verdict with
    | .returned (.ok ()) => return .ok ()
    | .returned (.error fault) => return .error (.fault fault)
    | .panicked => return .error .panicked

def dispatchAlone (table : Route.Table Handler) (policy : Route.MissPolicy) (package : Package)
    (context : Context) : TraceM (Except Interruption Outcome) :=
  dispatch callAlone log table policy package context

def sendAlone (_ : Package) : Except Fault Unit :=
  .error .connectionClosed

end Dispatch
end Courier
