import CertAuthority.Calendar
import CertAuthority.Der.Value
import CertAuthority.Text.Utf8

/-!
# Points in time in certificates

A time is written to the second, in one of two forms: with two digits of the
year, for 1970 to 2049, or with four, for 1970 to 9999.  A `Time` holds the
seconds since 1970 together with the form they are written in, and that the
form reaches that far.
-/

namespace CertAuthority.X509

/-- How a time is written. -/
inductive TimeForm where
  /-- With two digits of the year. -/
  | utc
  /-- With four digits of the year. -/
  | general
deriving DecidableEq

namespace TimeForm

/-- The first second that can no longer be written: the start of 2050 or of 10000. -/
def limit : TimeForm → Nat
  | utc => 2524608000
  | general => 253402300800

/-- The type of the element. -/
def tag : TimeForm → Der.Tag
  | utc => Der.Tag.utcTime
  | general => Der.Tag.generalizedTime

/-- Digits of the year. -/
def yearDigits : TimeForm → Nat
  | utc => 2
  | general => 4

/-- The year that written digits stand for. -/
def year (form : TimeForm) (written : Nat) : Nat :=
  match form with
  | utc => if written < 50 then 2000 + written else 1900 + written
  | general => written

end TimeForm

/-- A second of time in the form it is written in. -/
structure Time where
  form : TimeForm
  /-- Seconds since the start of 1970. -/
  seconds : Nat
  reachable : seconds < form.limit
deriving DecidableEq

namespace Time

/-- A second of time, if the form reaches that far. -/
def ofSeconds? (form : TimeForm) (seconds : Nat) : Option Time :=
  if h : seconds < form.limit then some ⟨form, seconds, h⟩ else none

/-- The lowest `count` decimal digits of a number as characters. -/
def digits : (count : Nat) → Nat → Octets
  | 0, _ => []
  | count + 1, value => digits count (value / 10) ++ [UInt8.ofNat (0x30 + value % 10)]

/-- The number that decimal digits stand for. -/
def number? (characters : Octets) : Option Nat :=
  if characters.all fun char => 0x30 ≤ char && char ≤ 0x39 then
    some (characters.foldl (fun value char => value * 10 + (char.toNat - 0x30)) 0)
  else none

/-- The character after the digits, which says that the time is not local. -/
def zone : UInt8 := 0x5a

/-- The written time: year, month, day, hours, minutes, seconds and the zone. -/
def content (time : Time) : Octets :=
  let date := Date.ofDayNumber (time.seconds / secondsPerDay : Nat)
  let second := time.seconds % secondsPerDay
  digits time.form.yearDigits date.year.toNat ++
    ([date.month, date.day, second / 3600, second / 60 % 60, second % 60].flatMap (digits 2) ++
      [zone])

/-- Reads a written time; there are no leap seconds. -/
def ofContent? (form : TimeForm) (characters : Octets) : Option Time := do
  let width := form.yearDigits
  if characters.length ≠ width + 11 ∨ characters.getLast? ≠ some zone then none
  else
    let year := form.year (← number? (characters.take width))
    let two := fun place => number? ((characters.drop (width + 2 * place)).take 2)
    let date : Date := ⟨year, ← two 0, ← two 1⟩
    let hours ← two 2
    let minutes ← two 3
    let seconds ← two 4
    if date.isValid && 1970 ≤ year && hours < 24 && minutes < 60 && seconds < 60 then
      ofSeconds? form
        (date.dayNumber.toNat * secondsPerDay + hours * 3600 + minutes * 60 + seconds)
    else none

/-- The time as octets. -/
def encode (time : Time) : Octets :=
  Der.encode time.form.tag time.content

/-- Reads a time in one of its forms. -/
def decodeAs (form : TimeForm) : Der.Decoder Time := fun octets => do
  let (content, rest) ← Der.decodeTagged form.tag octets
  let time ← ofContent? form content
  return (time, rest)

/-- Reads a time in either form. -/
def decode : Der.Decoder Time := fun octets =>
  if octets.head? = some TimeForm.utc.tag.octet then decodeAs .utc octets
  else decodeAs .general octets

end Time

/-- The period in which a certificate is valid. -/
structure Period where
  notBefore : Time
  notAfter : Time
deriving DecidableEq

namespace Period

/-- The period as octets. -/
def encode (period : Period) : Octets :=
  Der.encode Der.Tag.sequence (period.notBefore.encode ++ period.notAfter.encode)

/-- Reads start and end. -/
def decodeContent : Der.Decoder Period := fun octets => do
  let (notBefore, rest) ← Time.decode octets
  let (notAfter, rest) ← Time.decode rest
  return (⟨notBefore, notAfter⟩, rest)

/-- Reads a period. -/
def decode : Der.Decoder Period :=
  Der.decodeNested Der.Tag.sequence decodeContent

end Period

end CertAuthority.X509
