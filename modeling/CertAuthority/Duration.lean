/-!
# Durations

A duration is a whole number of nanoseconds, which may be negative.  It is
shown as a sum of units, from days to nanoseconds, each given only if it is not
zero; one whose seconds do not fit a signed 64-bit word is shown in seconds.
-/

namespace CertAuthority

/-- A span of time. -/
structure Duration where
  nanoseconds : Int
deriving DecidableEq

/-- Nanoseconds of a second. -/
def nanosecondsPerSecond : Nat := 1000000000

namespace Duration

/-- A span of whole seconds and nanoseconds. -/
def ofSeconds (seconds : Int) (nanoseconds : Nat := 0) : Duration :=
  ⟨seconds * nanosecondsPerSecond + nanoseconds⟩

/-- The first number of seconds that does not fit a signed 64-bit word. -/
def secondsLimit : Int := 0x8000000000000000

/-- Whether the whole seconds fit a signed 64-bit word. -/
def fitsWord (duration : Duration) : Bool :=
  let seconds := duration.nanoseconds.tdiv nanosecondsPerSecond
  decide (-secondsLimit ≤ seconds ∧ seconds < secondsLimit)

/-- The units of a duration, each with its nanoseconds. -/
def units : List (String × Nat) :=
  [("d", 86400000000000), ("h", 3600000000000), ("m", 60000000000), ("s", 1000000000),
    ("ms", 1000000), ("µs", 1000), ("ns", 1)]

/-- Nanoseconds as a sum of units, those that are zero left out. -/
def sumOfUnits : List (String × Nat) → Nat → String
  | [], _ => ""
  | (unit, size) :: smaller, nanoseconds =>
      let count := nanoseconds / size
      (if count = 0 then "" else Nat.repr count ++ unit) ++ sumOfUnits smaller (nanoseconds % size)

/-- The decimal places of a fraction of a second, without zeros at the end. -/
def fraction (nanoseconds : Nat) : String :=
  let digits := (Nat.repr (nanosecondsPerSecond + nanoseconds)).toList.drop 1
  let kept := (digits.reverse.dropWhile (· = '0')).reverse
  if kept.isEmpty then "" else String.ofList ('.' :: kept)

/-- The duration in seconds with a decimal fraction. -/
def inSeconds (nanoseconds : Nat) : String :=
  Nat.repr (nanoseconds / nanosecondsPerSecond) ++
    fraction (nanoseconds % nanosecondsPerSecond) ++ "s"

/-- The duration as a text. -/
def toString (duration : Duration) : String :=
  let magnitude := duration.nanoseconds.natAbs
  if !duration.fitsWord then inSeconds magnitude
  else if magnitude = 0 then "0s"
  else (if duration.nanoseconds < 0 then "-" else "") ++ sumOfUnits units magnitude

end Duration

end CertAuthority
