import CertAuthority.Error
import CertAuthority.Instant

/-!
# Validity periods

A certificate is valid from one instant to another.  `Validity.startingAt` sets
the first back by an allowance for clocks that are behind.
-/

namespace CertAuthority

/-- The period from one instant to another. -/
structure Validity where
  notBefore : Instant
  notAfter : Instant
deriving DecidableEq

namespace Validity

/-- The period that starts before an instant and ends after it. -/
def startingAt (now : Instant) (skew expiration : Duration) : Except Error Validity := do
  let notBefore ← orError (.expirationOutOfRange expiration) (now.sub? skew)
  let notAfter ← orError (.expirationOutOfRange expiration) (now.add? expiration)
  return ⟨notBefore, notAfter⟩

/-- The period as certificates carry it. -/
def toPeriod (validity : Validity) : Except Error X509.Period := do
  let notBefore ← orError .unwritableTime validity.notBefore.toTime?
  let notAfter ← orError .unwritableTime validity.notAfter.toTime?
  return ⟨notBefore, notAfter⟩

end Validity

end CertAuthority
