import Courier.Fault
import Courier.Package

/-! The route table. The first handler registered under a key stays, the last fallback wins, and a
refused registration changes nothing. -/
namespace Courier.Route

inductive Policy where
  | idAndKind
  | kindOnly
  deriving DecidableEq, Repr

/-- How a package without a route is dropped. -/
inductive MissPolicy where
  | report
  | silent
  deriving DecidableEq, Repr

inductive Registration (Handler : Type u) where
  | exact (id : UInt16) (kind : UInt8) (handler : Handler)
  | anyId (kind : UInt8) (handler : Handler)
  | fallback (handler : Handler)
  deriving Repr

structure Table (Handler : Type u) where
  policy : Policy
  routes : List (Key × Handler) := []
  fallback : Option Handler := none
  deriving Repr

namespace Table

variable {Handler : Type u}

def find? (table : Table Handler) (key : Key) : Option Handler :=
  table.routes.lookup key

def insert (table : Table Handler) (key : Key) (handler : Handler) :
    Except Fault (Table Handler) :=
  if (table.find? key).isSome then
    .error (.setup (.duplicateRoute key))
  else
    .ok { table with routes := (key, handler) :: table.routes }

def register (table : Table Handler) : Registration Handler → Except Fault (Table Handler)
  | .exact id kind handler =>
    match table.policy with
    | .kindOnly => .error (.setup (.exactRouteUnderKindOnly id kind))
    | .idAndKind => table.insert (.exact id kind) handler
  | .anyId kind handler => table.insert (.anyId kind) handler
  | .fallback handler => .ok { table with fallback := some handler }

/-- Go through registrations in order, past refused ones, with the answer to each. -/
def registerAll (table : Table Handler) :
    List (Registration Handler) → Table Handler × List (Except Fault Unit)
  | [] => (table, [])
  | registration :: rest =>
    let (next, answer) : Table Handler × Except Fault Unit :=
      match table.register registration with
      | .ok next => (next, .ok ())
      | .error fault => (table, .error fault)
    let (last, answers) := next.registerAll rest
    (last, answer :: answers)

/-- How many keys have a route; a fallback is none. -/
def size (table : Table Handler) : Nat :=
  table.routes.length

/-- The handler of a package: an exact route before one for the kind before the fallback. -/
def resolve? (table : Table Handler) (package : Package) : Option Handler :=
  let exact :=
    match table.policy with
    | .idAndKind => table.find? (.exact package.id package.kind)
    | .kindOnly => none
  exact <|> table.find? (.anyId package.kind) <|> table.fallback

def resolve (table : Table Handler) (package : Package) : Except Fault Handler :=
  match table.resolve? package with
  | some handler => .ok handler
  | none => .error (.unroutable package.id package.kind)

end Table
end Courier.Route
