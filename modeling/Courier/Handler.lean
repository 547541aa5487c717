import Courier.Frame.Encoding

/-! Handlers described by what they do. An invocation asks its surroundings for one thing after
another, such as time, a permit, the closing of its session or room for a package to send; it
records its start and, unless it panics, its end. -/
namespace Courier

inductive Action where
  | delay (millis : Nat)
  | permit
  | awaitCancellation
  /-- Answer with the same id and body under the next kind. -/
  | echo
  /-- Answer with the same id and kind and the body twice. -/
  | double
  | send (package : Except Fault Package)
  | fail (fault : Fault)
  | panic
  deriving Repr

structure Handler where
  tag : String
  actions : List Action
  deriving Repr

inductive Verdict where
  | returned (result : Except Fault Unit)
  | panicked
  deriving Repr

inductive Demand where
  | pause (millis : Nat)
  | permit
  | cancellation
  | room (package : Package)
  | finish (verdict : Verdict)
  deriving Repr

def Action.demand (package : Package) : Action → Demand
  | .delay millis => .pause millis
  | .permit => .permit
  | .awaitCancellation => .cancellation
  | .echo => reply (Package.ofBody package.id (package.kind + 1) package.body)
  | .double => reply (Package.ofBody package.id package.kind (package.body ++ package.body))
  | .send package => reply package
  | .fail fault => .finish (.returned (.error fault))
  | .panic => .finish .panicked
where
  reply : Except Fault Package → Demand
    | .ok package => .room package
    | .error fault => .finish (.returned (.error fault))

/-- A handler at work on a package; `actions` are those still to come. -/
structure Invocation where
  tag : String
  package : Package
  actions : List Action
  deriving Repr

namespace Invocation

def start (handler : Handler) (package : Package) : Invocation :=
  ⟨handler.tag, package, handler.actions⟩

def demand (invocation : Invocation) : Demand :=
  match invocation.actions with
  | [] => .finish (.returned (.ok ()))
  | action :: _ => action.demand invocation.package

def resume (invocation : Invocation) : Invocation :=
  { invocation with actions := invocation.actions.tail }

end Invocation

inductive Witness where
  | started (tag : String) (package : Package) (session : UInt64) (cancelled : Bool)
  | ended (tag : String) (id : UInt16) (result : Except Fault Unit) (cancelled : Bool)
  deriving Repr

/-- The end of an invocation, as it is recorded. A panic leaves no record. -/
def Invocation.endWitness (invocation : Invocation) (cancelled : Bool) : Verdict → List Witness
  | .returned result => [.ended invocation.tag invocation.package.id result cancelled]
  | .panicked => []

end Courier
