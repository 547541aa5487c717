import Courier.Numeral

namespace Courier

inductive LogLevel where
  | trace
  | debug
  | info
  | warn
  | error
  deriving DecidableEq, Repr

namespace LogLevel

/-- How much a level lets through: the larger, the more. -/
def verbosity : LogLevel → Nat
  | .error => 1
  | .warn => 2
  | .info => 3
  | .debug => 4
  | .trace => 5

def name : LogLevel → String
  | .trace => "trace"
  | .debug => "debug"
  | .info => "info"
  | .warn => "warn"
  | .error => "error"

def tag : LogLevel → String
  | .trace => "TRACE"
  | .debug => "DEBUG"
  | .info => "INFO"
  | .warn => "WARN"
  | .error => "ERROR"

def all : List LogLevel :=
  [.error, .warn, .info, .debug, .trace]

/-- Words are compared without regard to the case of ASCII letters. -/
def sameWord (left right : String) : Bool :=
  left.toList.map Char.toLower == right.toList.map Char.toLower

/-- A level is written as its name in any case, or as the numeral of its verbosity. -/
def parse? (text : String) : Option LogLevel :=
  match Numeral.parse (UInt64.size - 1) text with
  | .ok number => all.find? (·.verbosity = number)
  | .error _ => all.find? (sameWord ·.name text)

end LogLevel

inductive LogValue where
  | number (value : Nat)
  | text (value : String)
  deriving DecidableEq, Repr

structure LogRecord where
  level : LogLevel
  message : String
  fields : List (String × LogValue) := []
  deriving DecidableEq, Repr

end Courier
