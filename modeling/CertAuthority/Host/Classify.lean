import CertAuthority.Extension.SubjectAltName
import CertAuthority.Host.Email
import CertAuthority.Host.Uri

/-!
# Kinds of hosts

Hosts are given as texts.  Each is a network address, a mailbox or a resource
identifier, tried in this order, or else a host name, whatever it looks like.
-/

namespace CertAuthority

/-- A host with the kind of its name. -/
inductive Host where
  | address (address : IpAddress)
  | email (address : String)
  | uri (text : String)
  | dns (name : String)
deriving DecidableEq

namespace Host

/-- The host a text names.  Identifiers and host names are kept as they are. -/
def ofText (text : String) : Host :=
  match IpAddress.parse? text with
  | some found => .address found
  | none =>
      match Email.parse? text with
      | some found => .email found
      | none => if Uri.isAbsolute text then .uri text else .dns text

end Host

namespace Hosts

/-- Adds a host at the end of the list of its kind. -/
def add (hosts : Hosts) : Host → Hosts
  | .address address => { hosts with ipAddresses := hosts.ipAddresses ++ [address] }
  | .email address => { hosts with emailAddresses := hosts.emailAddresses ++ [address] }
  | .uri text => { hosts with uris := hosts.uris ++ [text] }
  | .dns name => { hosts with dnsNames := hosts.dnsNames ++ [name] }

/-- The hosts that texts name, in their order within each kind. -/
def classify (texts : List String) : Hosts :=
  texts.foldl (fun hosts text => hosts.add (Host.ofText text)) {}

end Hosts

end CertAuthority
