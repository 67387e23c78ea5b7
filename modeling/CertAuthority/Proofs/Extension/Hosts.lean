import CertAuthority.Extension.SubjectAltName
import CertAuthority.Proofs.Extension.Values
import CertAuthority.Proofs.Host.AddressOctets
import CertAuthority.Proofs.Host.Kinds
import CertAuthority.Proofs.Operation
import CertAuthority.Proofs.Text.Utf8

/-!
# Reading hosts back

The general names of hosts are read back one by one, and hosts are found again
in their order within each kind.  Only an address of version 6 that stands for
one of version 4 is read as the latter.
-/

namespace CertAuthority

open Der (Reads)
open X509 (GeneralName)

/-! ## General names -/

namespace X509.GeneralName

/-- Whether a name is of a kind that is kept apart, and a text in it has seven-bit characters. -/
def IsPlain : GeneralName → Prop
  | email name | dns name | uri name => Text.isAscii (Text.utf8 name) = true
  | address _ => True
  | other _ => False

theorem asciiText?_utf8 {name : String} (ascii : Text.isAscii (Text.utf8 name) = true) :
    asciiText? (Text.utf8 name) = some name := by
  rw [asciiText?, if_pos ascii, Text.ofUtf8?_utf8]

theorem ofElement?_email {name : String} (ascii : Text.isAscii (Text.utf8 name) = true) :
    ofElement? ⟨Der.Tag.field 1, Text.utf8 name⟩ = some (email name) := by
  simp only [ofElement?, asciiText?_utf8 ascii, if_true]
  rfl

theorem ofElement?_dns {name : String} (ascii : Text.isAscii (Text.utf8 name) = true) :
    ofElement? ⟨Der.Tag.field 2, Text.utf8 name⟩ = some (dns name) := by
  have other : Der.Tag.field 2 ≠ Der.Tag.field 1 := by decide
  simp only [ofElement?, asciiText?_utf8 ascii, other, if_true, if_false]
  rfl

theorem ofElement?_uri {name : String} (ascii : Text.isAscii (Text.utf8 name) = true) :
    ofElement? ⟨Der.Tag.field 6, Text.utf8 name⟩ = some (uri name) := by
  have others : Der.Tag.field 6 ≠ Der.Tag.field 1 ∧ Der.Tag.field 6 ≠ Der.Tag.field 2 := by decide
  simp only [ofElement?, asciiText?_utf8 ascii, others, if_true, if_false]
  rfl

theorem ofElement?_address (octets : Octets) :
    ofElement? ⟨Der.Tag.field 7, octets⟩ = some (address octets) := by
  have others : Der.Tag.field 7 ≠ Der.Tag.field 1 ∧ Der.Tag.field 7 ≠ Der.Tag.field 2 ∧
      Der.Tag.field 7 ≠ Der.Tag.field 6 := by decide
  simp only [ofElement?, others, if_true, if_false]

theorem reads {name : GeneralName} (plain : name.IsPlain) : Reads decode name.encode name := by
  cases name with
  | email name =>
      apply (Der.reads_any ⟨Der.Tag.field 1, Text.utf8 name⟩).map
      intro rest
      simp [ofElement?_email plain]
  | dns name =>
      apply (Der.reads_any ⟨Der.Tag.field 2, Text.utf8 name⟩).map
      intro rest
      simp [ofElement?_dns plain]
  | uri name =>
      apply (Der.reads_any ⟨Der.Tag.field 6, Text.utf8 name⟩).map
      intro rest
      simp [ofElement?_uri plain]
  | address octets =>
      apply (Der.reads_any ⟨Der.Tag.field 7, octets⟩).map
      intro rest
      simp [ofElement?_address octets]
  | other element => exact plain.elim

theorem encode_ne_nil (name : GeneralName) : name.encode ≠ [] := by
  cases name <;> exact Der.encode_ne_nil _ _

theorem listOfOctets?_encodeList {names : List GeneralName} (plain : ∀ name ∈ names, name.IsPlain)
    (short : (names.flatMap encode).length ≤ Der.maxLength) :
    listOfOctets? (encodeList names) = some names := by
  have read : Der.decodeList Der.Tag.sequence decode (encodeList names ++ []) = some (names, []) :=
    Der.decodeList_encode (fun name member => reads (plain name member))
      (fun name _ => name.encode_ne_nil) short []
  rw [List.append_nil] at read
  exact Der.complete_eq_some.mpr read

end X509.GeneralName

/-! ## Hosts and their general names -/

namespace Host

/-- The general name of a host. -/
def generalName : Host → GeneralName
  | dns name => .dns name
  | email name => .email name
  | address found => .address found.unmapped.octets
  | uri name => .uri name

/-- The host that a general name is the name of. -/
def ofGeneralName? : GeneralName → Option Host
  | .dns name => some (dns name)
  | .email name => some (email name)
  | .uri name => some (uri name)
  | .address octets => (IpAddress.ofOctets? octets).map address
  | .other _ => none

/-- The host with an address of version 6 that stands for one of version 4 replaced by it. -/
def unmapped : Host → Host
  | address found => address found.unmapped
  | other => other

theorem ofGeneralName?_generalName (host : Host) :
    ofGeneralName? host.generalName = some host.unmapped := by
  cases host with
  | address found => simp [ofGeneralName?, generalName, unmapped, IpAddress.ofOctets?_octets]
  | _ => rfl

end Host

namespace Hosts

/-! ### Writing -/

/-- Hosts with every address of version 6 that stands for one of version 4 replaced by it. -/
def unmapped (hosts : Hosts) : Hosts :=
  { hosts with ipAddresses := hosts.ipAddresses.map IpAddress.unmapped }

/-- The general names that hosts have, when they have any. -/
def generalNames (hosts : Hosts) : List GeneralName :=
  hosts.dnsNames.map .dns ++ hosts.emailAddresses.map .email ++
    hosts.ipAddresses.map (fun address => .address address.unmapped.octets) ++
      hosts.uris.map .uri

/-- The names that are written as they are, kind by kind. -/
def texts (hosts : Hosts) : List String :=
  hosts.dnsNames ++ hosts.emailAddresses ++ hosts.uris

/-- The first name that has a character of more than seven bits. -/
def firstForeign? (hosts : Hosts) : Option String :=
  hosts.texts.find? Text.isForeign

theorem mapM_asciiName_eq (names : List String) :
    names.mapM asciiName =
      match names.find? Text.isForeign with
      | some name => .error (.notAscii name)
      | none => .ok names := by
  induction names with
  | nil => rfl
  | cons head tail ih =>
      rw [List.mapM_cons, ih, asciiName, Text.isAscii_utf8]
      cases foreign : Text.isForeign head with
      | true =>
          rw [List.find?_cons_of_pos foreign]
          rfl
      | false =>
          rw [List.find?_cons_of_neg (by simp [foreign])]
          cases tail.find? Text.isForeign <;> rfl

/-- Hosts have general names unless one of their names cannot be written; then the first such name
is reported. -/
theorem toGeneralNames_eq (hosts : Hosts) :
    hosts.toGeneralNames =
      match hosts.firstForeign? with
      | some name => .error (.notAscii name)
      | none => .ok hosts.generalNames := by
  unfold toGeneralNames firstForeign? texts
  rw [List.find?_append, List.find?_append]
  simp only [mapM_asciiName_eq]
  cases hosts.dnsNames.find? Text.isForeign with
  | some name => rfl
  | none =>
      cases hosts.emailAddresses.find? Text.isForeign with
      | some name => rfl
      | none => cases hosts.uris.find? Text.isForeign <;> rfl

theorem encode_eq (hosts : Hosts) :
    hosts.encode =
      match hosts.firstForeign? with
      | some name => .error (.notAscii name)
      | none => .ok (GeneralName.encodeList hosts.generalNames) := by
  rw [encode, toGeneralNames_eq]
  cases hosts.firstForeign? <;> rfl

theorem firstForeign?_eq_none {hosts : Hosts} :
    hosts.firstForeign? = none ↔ ∀ name ∈ hosts.generalNames, name.IsPlain := by
  simp only [firstForeign?, texts, List.find?_eq_none, generalNames, List.forall_mem_append,
    List.forall_mem_map, GeneralName.IsPlain, Text.isAscii_utf8, Bool.not_eq_true',
    Bool.not_eq_true, implies_true, and_true]

theorem encode_eq_ok {hosts : Hosts} {octets : Octets} :
    hosts.encode = .ok octets ↔
      hosts.firstForeign? = none ∧ GeneralName.encodeList hosts.generalNames = octets := by
  rw [encode_eq]
  cases hosts.firstForeign? <;> simp

theorem encode_eq_error {hosts : Hosts} {error : Error} :
    hosts.encode = .error error ↔
      ∃ name, hosts.firstForeign? = some name ∧ .notAscii name = error := by
  rw [encode_eq]
  cases hosts.firstForeign? <;> simp

/-- An address of seven-bit characters makes no difference to what cannot be written. -/
theorem firstForeign?_add_email {address : String} (ascii : Text.isForeign address = false)
    (hosts : Hosts) : (hosts.add (.email address)).firstForeign? = hosts.firstForeign? := by
  have passedOver : [address].find? Text.isForeign = none :=
    List.find?_cons_of_neg (Bool.eq_false_iff.mp ascii)
  simp only [firstForeign?, texts, add, List.find?_append, passedOver, Option.or_none]

theorem firstForeign?_of_isEmpty {hosts : Hosts} (empty : hosts.isEmpty = true) :
    hosts.firstForeign? = none := by
  simp only [isEmpty, Bool.and_eq_true, List.isEmpty_iff] at empty
  rw [firstForeign?, texts, empty.1.1.1, empty.1.1.2, empty.2]
  rfl

/-! ### Reading -/

theorem generalNames_eq (hosts : Hosts) :
    hosts.generalNames = hosts.toList.map Host.generalName := by
  simp [generalNames, toList, Host.generalName, Function.comp_def]

theorem addGeneralName_eq_ok {hosts result : Hosts} {name : GeneralName} :
    hosts.addGeneralName name = .ok result ↔
      ∃ host, Host.ofGeneralName? name = some host ∧ hosts.add host = result := by
  cases name with
  | address octets =>
      cases made : IpAddress.ofOctets? octets <;>
        simp [addGeneralName, Host.ofGeneralName?, made, add, pure, Except.pure]
  | _ => simp [addGeneralName, Host.ofGeneralName?, add]

theorem foldlM_addGeneralName_eq_ok {hosts result : Hosts} {names : List GeneralName} :
    names.foldlM addGeneralName hosts = .ok result ↔
      ∃ named, names.mapM Host.ofGeneralName? = some named ∧ named.foldl add hosts = result := by
  induction names generalizing hosts with
  | nil => simp [pure, Except.pure]
  | cons name names ih =>
      rw [List.foldlM_cons, Except.bind_eq_ok]
      simp only [addGeneralName_eq_ok, ih, List.mapM_cons, Option.bind_eq_bind,
        Option.bind_eq_some_iff, Option.pure_def, Option.some.injEq]
      constructor
      · rintro ⟨_, ⟨host, first, rfl⟩, named, others, rfl⟩
        exact ⟨host :: named, ⟨host, first, named, others, rfl⟩, rfl⟩
      · rintro ⟨_, ⟨host, first, named, others, rfl⟩, rfl⟩
        exact ⟨_, ⟨host, first, rfl⟩, named, others, rfl⟩

/-- General names are those of hosts if each of them is. -/
theorem ofGeneralNames_eq_ok {hosts : Hosts} {names : List GeneralName} :
    ofGeneralNames names = .ok hosts ↔
      ∃ named, names.mapM Host.ofGeneralName? = some named ∧ ofList named = hosts := by
  rw [ofGeneralNames, foldlM_addGeneralName_eq_ok]
  simp only [foldl_add_empty]

theorem toList_unmapped (hosts : Hosts) :
    hosts.unmapped.toList = hosts.toList.map Host.unmapped := by
  simp [unmapped, toList, Host.unmapped, Function.comp_def]

theorem ofGeneralNames_generalNames (hosts : Hosts) :
    ofGeneralNames hosts.generalNames = .ok hosts.unmapped := by
  have each : Host.ofGeneralName? ∘ Host.generalName = fun host => pure host.unmapped :=
    funext Host.ofGeneralName?_generalName
  refine ofGeneralNames_eq_ok.mpr ⟨hosts.unmapped.toList, ?_, ofList_toList _⟩
  rw [generalNames_eq, List.mapM_map, each, List.mapM_pure, toList_unmapped]
  rfl

theorem decode_encodeList {hosts : Hosts} (plain : ∀ name ∈ hosts.generalNames, name.IsPlain)
    (short : (hosts.generalNames.flatMap GeneralName.encode).length ≤ Der.maxLength) :
    decode (GeneralName.encodeList hosts.generalNames) = .ok hosts.unmapped := by
  rw [decode, GeneralName.listOfOctets?_encodeList plain short]
  exact ofGeneralNames_generalNames hosts

theorem readsBack (hosts : Hosts) : ExtensionValue.ReadsBack hosts hosts.unmapped := by
  intro octets written bound
  rcases encode_eq_ok.mp written with ⟨noneForeign, rfl⟩
  exact decode_encodeList (firstForeign?_eq_none.mp noneForeign)
    ((Der.length_content_le _ _).trans bound)

end Hosts

end CertAuthority
