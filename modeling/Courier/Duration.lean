namespace Courier

structure Duration where
  seconds : UInt64
  nanos : Fin 1000000000
  deriving DecidableEq, Repr

namespace Duration

def ofMillis (millis : UInt64) : Duration :=
  ⟨UInt64.ofNat (millis.toNat / 1000),
    ⟨millis.toNat % 1000 * 1000000, by omega⟩⟩

/-- Nanoseconds beyond a second are carried into the seconds. -/
def ofParts (seconds : UInt64) (nanos : Nat) : Duration :=
  ⟨seconds + UInt64.ofNat (nanos / 1000000000), ⟨nanos % 1000000000, by omega⟩⟩

def toNanos (duration : Duration) : Nat :=
  duration.seconds.toNat * 1000000000 + duration.nanos.val

/-- Whole milliseconds; what is left of the last one is dropped. -/
def toMillis (duration : Duration) : Nat :=
  duration.seconds.toNat * 1000 + duration.nanos.val / 1000000

/-- Whole milliseconds, the last one counted even if it is only begun. -/
def toMillisUp (duration : Duration) : Nat :=
  duration.seconds.toNat * 1000 + (duration.nanos.val + 999999) / 1000000

end Duration
end Courier
