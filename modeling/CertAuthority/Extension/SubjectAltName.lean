import CertAuthority.Extension.Basic
import CertAuthority.Host.IpAddress
import CertAuthority.X509.GeneralName

/-!
# Subject alternative names

The hosts that a certificate is for, by the kind of name they have.  They are
written kind by kind: host names, mailboxes, network addresses and resources.
A name has to consist of seven-bit characters, and an address of version 6 that
stands for one of version 4 is written as the latter.
-/

namespace CertAuthority

/-- Hosts by the kind of their name. -/
structure Hosts where
  dnsNames : List String := []
  emailAddresses : List String := []
  ipAddresses : List IpAddress := []
  uris : List String := []
deriving DecidableEq

namespace Hosts

open X509 (GeneralName)

/-- Whether there are no hosts. -/
def isEmpty (hosts : Hosts) : Bool :=
  hosts.dnsNames.isEmpty && hosts.emailAddresses.isEmpty && hosts.ipAddresses.isEmpty &&
    hosts.uris.isEmpty

/-- The name, if it consists of seven-bit characters. -/
def asciiName (name : String) : Except Error String :=
  if Text.isAscii (Text.utf8 name) then .ok name else .error (.notAscii name)

/-- The general names of hosts, kind by kind. -/
def toGeneralNames (hosts : Hosts) : Except Error (List GeneralName) := do
  let dnsNames ← hosts.dnsNames.mapM asciiName
  let emailAddresses ← hosts.emailAddresses.mapM asciiName
  let uris ← hosts.uris.mapM asciiName
  return dnsNames.map .dns ++ emailAddresses.map .email ++
    hosts.ipAddresses.map (fun address => .address address.unmapped.octets) ++ uris.map .uri

/-- Adds the host of a general name. -/
def addGeneralName (hosts : Hosts) : GeneralName → Except Error Hosts
  | .dns name => .ok { hosts with dnsNames := hosts.dnsNames ++ [name] }
  | .email name => .ok { hosts with emailAddresses := hosts.emailAddresses ++ [name] }
  | .uri name => .ok { hosts with uris := hosts.uris ++ [name] }
  | .address octets => do
      let address ← orError (.addressSize octets.length) (IpAddress.ofOctets? octets)
      return { hosts with ipAddresses := hosts.ipAddresses ++ [address] }
  | .other _ => .error .unsupportedGeneralName

/-- The hosts of general names, in their order within each kind. -/
def ofGeneralNames (names : List GeneralName) : Except Error Hosts :=
  names.foldlM addGeneralName {}

/-- The identifier 2.5.29.17. -/
def oid : Der.Oid := ⟨[0x55, 0x1d, 0x11], by decide⟩

/-- The hosts as octets. -/
def encode (hosts : Hosts) : Except Error Octets := do
  return GeneralName.encodeList (← hosts.toGeneralNames)

/-- Reads hosts that fill the octets. -/
def decode (octets : Octets) : Except Error Hosts := do
  ofGeneralNames (← orError .malformedExtension (GeneralName.listOfOctets? octets))

instance : ExtensionValue Hosts where
  oid := oid
  encode := encode
  decode := decode

end Hosts

end CertAuthority
