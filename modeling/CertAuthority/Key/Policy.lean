import CertAuthority.Error

/-!
# Which keys may be asked for

The algorithm is given by its name, and its size has to be one the algorithm
accepts.
-/

namespace CertAuthority.KeyAlgorithm

/-- The algorithm with a name. -/
def ofName (name : String) : Except Error KeyAlgorithm :=
  orError (.unknownKeyAlgorithm name) (ofName? name)

/-- Checks a size. -/
def validateSize (algorithm : KeyAlgorithm) (size : Nat) : Except Error Unit :=
  if algorithm.acceptsSize size then .ok () else .error (.invalidKeySize algorithm size)

/-- The algorithm with a name, if it accepts a size. -/
def validate (name : String) (size : Nat) : Except Error KeyAlgorithm := do
  let algorithm ← ofName name
  algorithm.validateSize size
  return algorithm

end CertAuthority.KeyAlgorithm
