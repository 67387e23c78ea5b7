import CertAuthority.Extension.Basic

/-!
# Extended key usage

The purposes a certificate is meant for, as a list of identifiers.  A list is
read only if every purpose in it is known.
-/

namespace CertAuthority

/-- The purposes of certificates. -/
inductive Purpose where
  | any
  | serverAuth
  | clientAuth
  | codeSigning
  | emailProtection
  | ipsecEndSystem
  | ipsecTunnel
  | ipsecUser
  | timeStamping
  | ocspSigning
  | microsoftServerGatedCrypto
  | netscapeServerGatedCrypto
deriving DecidableEq

namespace Purpose

/-- Every purpose. -/
def all : List Purpose :=
  [any, serverAuth, clientAuth, codeSigning, emailProtection, ipsecEndSystem, ipsecTunnel,
    ipsecUser, timeStamping, ocspSigning, microsoftServerGatedCrypto, netscapeServerGatedCrypto]

/--
The identifiers: 2.5.29.37.0, those from 1.3.6.1.5.5.7.3.1 to 9, and two of
companies, 1.3.6.1.4.1.311.10.3.3 and 2.16.840.1.113730.4.1.
-/
def oid : Purpose → Der.Oid
  | any => ⟨[0x55, 0x1d, 0x25, 0x00], by decide⟩
  | serverAuth => ⟨[0x2b, 0x06, 0x01, 0x05, 0x05, 0x07, 0x03, 0x01], by decide⟩
  | clientAuth => ⟨[0x2b, 0x06, 0x01, 0x05, 0x05, 0x07, 0x03, 0x02], by decide⟩
  | codeSigning => ⟨[0x2b, 0x06, 0x01, 0x05, 0x05, 0x07, 0x03, 0x03], by decide⟩
  | emailProtection => ⟨[0x2b, 0x06, 0x01, 0x05, 0x05, 0x07, 0x03, 0x04], by decide⟩
  | ipsecEndSystem => ⟨[0x2b, 0x06, 0x01, 0x05, 0x05, 0x07, 0x03, 0x05], by decide⟩
  | ipsecTunnel => ⟨[0x2b, 0x06, 0x01, 0x05, 0x05, 0x07, 0x03, 0x06], by decide⟩
  | ipsecUser => ⟨[0x2b, 0x06, 0x01, 0x05, 0x05, 0x07, 0x03, 0x07], by decide⟩
  | timeStamping => ⟨[0x2b, 0x06, 0x01, 0x05, 0x05, 0x07, 0x03, 0x08], by decide⟩
  | ocspSigning => ⟨[0x2b, 0x06, 0x01, 0x05, 0x05, 0x07, 0x03, 0x09], by decide⟩
  | microsoftServerGatedCrypto =>
      ⟨[0x2b, 0x06, 0x01, 0x04, 0x01, 0x82, 0x37, 0x0a, 0x03, 0x03], by decide⟩
  | netscapeServerGatedCrypto =>
      ⟨[0x60, 0x86, 0x48, 0x01, 0x86, 0xf8, 0x42, 0x04, 0x01], by decide⟩

/-- The purpose with an identifier. -/
def ofOid (oid : Der.Oid) : Except Error Purpose :=
  orError (.unsupportedPurpose oid) (all.find? (·.oid = oid))

end Purpose

/-- The purposes of a certificate in their order; one may occur more than once. -/
structure ExtendedKeyUsage where
  purposes : List Purpose
deriving DecidableEq

namespace ExtendedKeyUsage

/-- The identifier 2.5.29.37. -/
def oid : Der.Oid := ⟨[0x55, 0x1d, 0x25], by decide⟩

/-- The purposes as octets. -/
def encode (usage : ExtendedKeyUsage) : Octets :=
  Der.encode Der.Tag.sequence (usage.purposes.flatMap (·.oid.encode))

/-- Reads identifiers that fill the octets. -/
def identifiers? (octets : Octets) : Option (List Der.Oid) :=
  Der.complete (Der.decodeList Der.Tag.sequence Der.Oid.decode) octets

/-- Reads purposes that fill the octets. -/
def decode (octets : Octets) : Except Error ExtendedKeyUsage := do
  let identifiers ← orError .malformedExtension (identifiers? octets)
  return ⟨← identifiers.mapM Purpose.ofOid⟩

instance : ExtensionValue ExtendedKeyUsage where
  oid := oid
  encode usage := .ok usage.encode
  decode := decode

end ExtendedKeyUsage

end CertAuthority
