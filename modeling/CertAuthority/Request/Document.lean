/-!
# Request documents

What a request document says, before it is checked.  Every field may be
missing.
-/

namespace CertAuthority

/-- One entry of the names in a request document. -/
structure NameEntry where
  country : Option String := none
  province : Option String := none
  locality : Option String := none
  organization : Option String := none
  organizationalUnit : Option String := none
  serialNumber : Option String := none
deriving DecidableEq

/-- The fields of a request document. -/
structure RequestDocument where
  keyAlgorithm : Option String := none
  keySize : Option Int := none
  commonName : Option String := none
  names : Option (List NameEntry) := none
  hosts : Option (List String) := none
  serialNumber : Option String := none
deriving DecidableEq

end CertAuthority
