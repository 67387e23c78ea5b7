import CertAuthority.Calendar
import CertAuthority.Duration
import CertAuthority.X509.Time

/-!
# Instants

An instant is a point in time to the nanosecond, seen from a clock that may be
ahead of or behind universal time.  The local clock shows a year from -9999 to
9999, and `add?` refuses to leave these years.

An instant is written in a certificate without its fraction of a second; the
local year decides in which form.
-/

namespace CertAuthority

/-- Nanoseconds of a day. -/
def nanosecondsPerDay : Nat := secondsPerDay * nanosecondsPerSecond

/-- The first day of the calendar on local clocks. -/
def firstLocalDay : Int := Date.dayNumber ⟨-9999, 1, 1⟩

/-- The day after the last of the calendar on local clocks. -/
def endLocalDay : Int := Date.dayNumber ⟨10000, 1, 1⟩

/-- Whether a local clock can show a number of nanoseconds since 1970. -/
def isLocalTime (nanoseconds : Int) : Bool :=
  firstLocalDay * nanosecondsPerDay ≤ nanoseconds && nanoseconds < endLocalDay * nanosecondsPerDay

/-- A point in time with the clock it is seen from. -/
structure Instant where
  /-- Nanoseconds of universal time since the start of 1970. -/
  nanoseconds : Int
  /-- Seconds by which the local clock is ahead. -/
  offset : Int
  shown : isLocalTime (nanoseconds + offset * nanosecondsPerSecond) = true
deriving DecidableEq

namespace Instant

/-- The instant of nanoseconds since 1970, if the local clock can show it. -/
def ofNanoseconds? (nanoseconds offset : Int) : Option Instant :=
  if h : isLocalTime (nanoseconds + offset * nanosecondsPerSecond) = true then
    some ⟨nanoseconds, offset, h⟩
  else none

/-- The instant of a whole second of universal time with a fraction. -/
def ofSeconds? (seconds : Int) (fraction : Nat) (offset : Int) : Option Instant :=
  ofNanoseconds? (seconds * nanosecondsPerSecond + fraction) offset

/-- The instant after a duration. -/
def add? (instant : Instant) (duration : Duration) : Option Instant :=
  ofNanoseconds? (instant.nanoseconds + duration.nanoseconds) instant.offset

/-- The instant before a duration. -/
def sub? (instant : Instant) (duration : Duration) : Option Instant :=
  ofNanoseconds? (instant.nanoseconds - duration.nanoseconds) instant.offset

/-- Whole seconds of universal time since 1970, rounded down. -/
def seconds (instant : Instant) : Int :=
  instant.nanoseconds / nanosecondsPerSecond

/-- The year the local clock shows. -/
def localYear (instant : Instant) : Int :=
  let shown := instant.nanoseconds + instant.offset * nanosecondsPerSecond
  (Date.ofDayNumber (shown / nanosecondsPerDay)).year

/-- The last instant, in nanoseconds, that can be written: the end of 9999 to the second. -/
def lastWritten : Int := 253402300799 * nanosecondsPerSecond

/-- The written time: with two digits of the year if the local year is before 2050. -/
def toTime? (instant : Instant) : Option X509.Time :=
  if 0 ≤ instant.nanoseconds ∧ instant.nanoseconds ≤ lastWritten then
    X509.Time.ofSeconds? (if instant.localYear < 2050 then .utc else .general)
      instant.seconds.toNat
  else none

end Instant

end CertAuthority
