import CertAuthority.Host.Classify
import Mathlib.Data.List.Basic

/-!
# Hosts kind by kind

Hosts in a row are divided among four lists, one a kind (`Hosts.ofList`).  None
is lost and none is in two of them, so that the lists one after the other are
the hosts in another order; and hosts that are kept by kind are found again when
they are put in a row.
-/

namespace CertAuthority

namespace Host

/-- The host, if it is a host name. -/
def dns? : Host → Option String
  | .dns found => some found
  | _ => none

/-- The host, if it is a mailbox. -/
def email? : Host → Option String
  | .email found => some found
  | _ => none

/-- The host, if it is a network address. -/
def address? : Host → Option IpAddress
  | .address found => some found
  | _ => none

/-- The host, if it is a resource identifier. -/
def uri? : Host → Option String
  | .uri found => some found
  | _ => none

end Host

namespace Hosts

/-- The hosts of a list, in their order within each kind. -/
def ofList (hosts : List Host) : Hosts where
  dnsNames := hosts.filterMap Host.dns?
  emailAddresses := hosts.filterMap Host.email?
  ipAddresses := hosts.filterMap Host.address?
  uris := hosts.filterMap Host.uri?

/-- All hosts, one kind after the other. -/
def toList (hosts : Hosts) : List Host :=
  hosts.dnsNames.map .dns ++ hosts.emailAddresses.map .email ++
    hosts.ipAddresses.map .address ++ hosts.uris.map .uri

/-- Hosts followed by others, kind by kind. -/
def append (left right : Hosts) : Hosts where
  dnsNames := left.dnsNames ++ right.dnsNames
  emailAddresses := left.emailAddresses ++ right.emailAddresses
  ipAddresses := left.ipAddresses ++ right.ipAddresses
  uris := left.uris ++ right.uris

/-- How many hosts there are of all kinds. -/
def size (hosts : Hosts) : Nat :=
  hosts.dnsNames.length + hosts.emailAddresses.length + hosts.ipAddresses.length +
    hosts.uris.length

/-! ## Lists of hosts -/

theorem ofList_append (left right : List Host) :
    ofList (left ++ right) = (ofList left).append (ofList right) := by
  simp only [ofList, append, List.filterMap_append]

theorem toList_ofList_cons (host : Host) (hosts : List Host) :
    (ofList (host :: hosts)).toList.Perm (host :: (ofList hosts).toList) := by
  simp only [toList, ofList, List.append_assoc]
  cases host with
  | dns name => exact .refl _
  | email address => exact List.perm_middle
  | address address => exact (List.perm_middle.append_left _).trans List.perm_middle
  | uri text =>
      exact (((List.perm_middle.append_left _).trans List.perm_middle).append_left _).trans
        List.perm_middle

/-- Each host is in the list of its kind and in no other. -/
theorem toList_ofList (hosts : List Host) : (ofList hosts).toList.Perm hosts := by
  induction hosts with
  | nil => exact .nil
  | cons host hosts ih => exact (toList_ofList_cons host hosts).trans (ih.cons host)

/-- Hosts that are the same kind by kind are the same but for their order. -/
theorem perm_of_ofList_eq {left right : List Host} (same : ofList left = ofList right) :
    left.Perm right :=
  (toList_ofList left).symm.trans (same ▸ toList_ofList right)

theorem ofList_toList (hosts : Hosts) : ofList hosts.toList = hosts := by
  simp [ofList, toList, List.filterMap_map, Function.comp_def, Host.dns?, Host.email?,
    Host.address?, Host.uri?]

/-! ## Adding hosts -/

theorem append_assoc (first second third : Hosts) :
    (first.append second).append third = first.append (second.append third) := by
  simp only [append, List.append_assoc]

theorem add_eq (hosts : Hosts) (host : Host) : hosts.add host = hosts.append (ofList [host]) := by
  cases host <;> simp [add, append, ofList, Host.dns?, Host.email?, Host.address?, Host.uri?]

theorem foldl_add (hosts : Hosts) (others : List Host) :
    others.foldl add hosts = hosts.append (ofList others) := by
  induction others generalizing hosts with
  | nil => simp [append, ofList]
  | cons host others ih =>
      rw [List.foldl_cons, ih, add_eq, append_assoc, ← ofList_append, List.singleton_append]

/-- Hosts that are added one by one are those of the list. -/
theorem foldl_add_empty (hosts : List Host) : hosts.foldl add {} = ofList hosts := by
  rw [foldl_add]
  simp [append]

/-! ## How many there are -/

theorem length_toList (hosts : Hosts) : hosts.toList.length = hosts.size := by
  simp only [toList, size, List.length_append, List.length_map]

theorem size_ofList (hosts : List Host) : (ofList hosts).size = hosts.length := by
  rw [← length_toList, (toList_ofList hosts).length_eq]

theorem isEmpty_iff {hosts : Hosts} : hosts.isEmpty = true ↔ hosts.size = 0 := by
  simp only [isEmpty, size, Bool.and_eq_true, List.isEmpty_iff, ← List.length_eq_zero_iff]
  omega

end Hosts

end CertAuthority
