import CertAuthority.Proofs.Der.Exact
import CertAuthority.Proofs.Extension.Hosts

/-!
# Hosts and their general names

Octets are read as hosts exactly if they are a list of elements each of which is
the name of a host (`Hosts.decode_eq_ok`); the hosts are those of the elements,
one by one, in whatever order the kinds are mixed.  Such hosts have only names
that can be written and are written with no more octets than they were read
from, so that they are read back.

Hosts that are given otherwise can be written unless a name has a character of
more than seven bits.
-/

namespace CertAuthority

open Der (Any)
open X509 (GeneralName)

/-! ## Lists of values that may be missing -/

section
variable {α β γ : Type}

theorem mapM_option_eq_some {read : α → Option β} {items : List α} {values : List β} :
    items.mapM read = some values ↔
      List.Forall₂ (fun item value => read item = some value) items values := by
  induction items generalizing values with
  | nil => simp [List.forall₂_nil_left_iff, eq_comm]
  | cons item items ih =>
      simp only [List.mapM_cons, List.forall₂_cons_left_iff, ← ih, Option.bind_eq_bind,
        Option.bind_eq_some_iff, Option.pure_def, Option.some.injEq]
      constructor
      · rintro ⟨value, first, values, others, rfl⟩
        exact ⟨value, values, first, others, rfl⟩
      · rintro ⟨value, values, first, others, rfl⟩
        exact ⟨value, first, values, others, rfl⟩

theorem exists_forall₂_iff {related : α → β → Prop} {items : List α} :
    (∃ values, List.Forall₂ related items values) ↔
      ∀ item ∈ items, ∃ value, related item value := by
  induction items with
  | nil => exact iff_of_true ⟨[], .nil⟩ nofun
  | cons item items ih =>
      rw [List.forall_mem_cons, ← ih]
      constructor
      · rintro ⟨_, first | ⟨first, others⟩⟩
        exact ⟨⟨_, first⟩, _, others⟩
      · rintro ⟨⟨value, first⟩, values, others⟩
        exact ⟨value :: values, .cons first others⟩

theorem mapM_option_bind (first : α → Option β) (second : β → Option γ) (items : List α) :
    items.mapM (fun item => (first item).bind second) =
      (items.mapM first).bind (List.mapM second) := by
  induction items with
  | nil => rfl
  | cons item items ih =>
      cases middle : first item <;> cases others : items.mapM first <;>
        simp [middle, others, ih]

end

namespace Host

/-! ## Elements of names -/

/-- Whether an element is the name of a host: seven-bit text, or an address of four or sixteen
octets. -/
def IsElement (element : Any) : Prop :=
  (element.tag = Der.Tag.field 1 ∨ element.tag = Der.Tag.field 2 ∨
      element.tag = Der.Tag.field 6) ∧ Text.isAscii element.content = true ∨
    element.tag = Der.Tag.field 7 ∧
      (element.content.length = 4 ∨ element.content.length = 16)

/-- The host that an element is the name of. -/
def ofElement? (element : Any) : Option Host :=
  if element.tag = Der.Tag.field 1 then (GeneralName.asciiText? element.content).map .email
  else if element.tag = Der.Tag.field 2 then (GeneralName.asciiText? element.content).map .dns
  else if element.tag = Der.Tag.field 6 then (GeneralName.asciiText? element.content).map .uri
  else if element.tag = Der.Tag.field 7 then (IpAddress.ofOctets? element.content).map .address
  else none

theorem ofElement?_eq (element : Any) :
    ofElement? element = (GeneralName.ofElement? element).bind ofGeneralName? := by
  simp only [ofElement?, GeneralName.ofElement?]
  cases GeneralName.asciiText? element.content <;> split_ifs <;> rfl

theorem mapM_ofElement?_eq_some {elements : List Any} {named : List Host} :
    (∃ names, elements.mapM GeneralName.ofElement? = some names ∧
        names.mapM ofGeneralName? = some named) ↔
      List.Forall₂ (fun element host => ofElement? element = some host) elements named := by
  rw [← mapM_option_eq_some, funext ofElement?_eq, mapM_option_bind, Option.bind_eq_some_iff]

theorem asciiText?_eq_some {content : Octets} {text : String}
    (read : GeneralName.asciiText? content = some text) :
    Text.isAscii content = true ∧ Text.utf8 text = content := by
  unfold GeneralName.asciiText? at read
  split at read
  · rename_i ascii
    rw [Text.ofUtf8?_ascii ascii] at read
    cases read
    exact ⟨ascii, Text.utf8_asciiText ascii⟩
  · cases read

theorem isSome_asciiText? (content : Octets) :
    (GeneralName.asciiText? content).isSome = Text.isAscii content := by
  unfold GeneralName.asciiText?
  split
  · rename_i ascii
    rw [Text.ofUtf8?_ascii ascii, ascii, Option.isSome_some]
  · rename_i foreign
    rw [Bool.eq_false_iff.mpr foreign, Option.isSome_none]

theorem exists_ofElement?_iff {element : Any} :
    (∃ host, ofElement? element = some host) ↔ IsElement element := by
  have apart : Der.Tag.field 1 ≠ Der.Tag.field 7 ∧ Der.Tag.field 2 ≠ Der.Tag.field 7 ∧
      Der.Tag.field 6 ≠ Der.Tag.field 7 := by decide
  rw [← Option.isSome_iff_exists]
  unfold ofElement? IsElement
  split_ifs with email dns uri address
  · simp [email, isSome_asciiText?, apart]
  · simp [dns, isSome_asciiText?, apart]
  · simp [uri, isSome_asciiText?, apart]
  · simp [address, apart.1.symm, apart.2.1.symm, apart.2.2.symm, Option.isSome_iff_exists,
      IpAddress.exists_ofOctets?_iff]
  · simp [email, dns, uri, address]

/-- The text of an element is written as the element again. -/
theorem rewritten_of_text {element : Any} {tag : Der.Tag} {make : String → Host} {host : Host}
    (tagged : element.tag = tag)
    (plain : ∀ text, (make text).generalName.IsPlain ↔ Text.isAscii (Text.utf8 text) = true)
    (written : ∀ text, (make text).generalName.encode = Der.encode tag (Text.utf8 text))
    (read : (GeneralName.asciiText? element.content).map make = some host) :
    host.generalName.IsPlain ∧ host.generalName.encode = element.encode := by
  rcases Option.map_eq_some_iff.mp read with ⟨text, found, rfl⟩
  rcases asciiText?_eq_some found with ⟨ascii, same⟩
  rw [plain, written, same, Any.encode, tagged]
  exact ⟨ascii, rfl⟩

/-- The name of a host can be written, with no more octets than it was read from. -/
theorem rewritten_of_ofElement? {element : Any} {host : Host}
    (read : ofElement? element = some host) : host.generalName.IsPlain ∧
      host.generalName.encode.length ≤ element.encode.length := by
  unfold ofElement? at read
  split_ifs at read with email dns uri address
  · exact (rewritten_of_text email (fun _ => Iff.rfl) (fun _ => rfl) read).imp_right
      fun same => (congrArg List.length same).le
  · exact (rewritten_of_text dns (fun _ => Iff.rfl) (fun _ => rfl) read).imp_right
      fun same => (congrArg List.length same).le
  · exact (rewritten_of_text uri (fun _ => Iff.rfl) (fun _ => rfl) read).imp_right
      fun same => (congrArg List.length same).le
  · rcases Option.map_eq_some_iff.mp read with ⟨found, made, rfl⟩
    refine ⟨trivial, ?_⟩
    rw [Any.encode, ← IpAddress.octets_of_ofOctets? made, address]
    exact Der.length_encode_mono _ (IpAddress.length_octets_unmapped_le found)

theorem rewritten_of_forall₂ {elements : List Any} {named : List Host}
    (read : List.Forall₂ (fun element host => ofElement? element = some host) elements named) :
    (∀ name ∈ named.map generalName, name.IsPlain) ∧
      ((named.map generalName).flatMap GeneralName.encode).length ≤
        (elements.flatMap Any.encode).length := by
  induction read with
  | nil => exact ⟨nofun, Nat.le_refl 0⟩
  | cons first others ih =>
      rcases rewritten_of_ofElement? first with ⟨plain, short⟩
      refine ⟨List.forall_mem_cons.mpr ⟨plain, ih.1⟩, ?_⟩
      simp only [List.map_cons, List.flatMap_cons, List.length_append]
      exact Nat.add_le_add short ih.2

end Host

namespace Hosts

/-! ## Reading -/

/-- The elements of a list of names. -/
def elements? (octets : Octets) : Option (List Any) :=
  Der.complete (Der.decodeList Der.Tag.sequence Any.decode) octets

theorem listOfOctets?_eq (octets : Octets) :
    GeneralName.listOfOctets? octets =
      (elements? octets).bind (List.mapM GeneralName.ofElement?) := by
  rw [elements?, ← Der.complete_decodeMade]
  exact congrArg (fun read => Der.complete read octets)
    (funext (Der.decodeList_made Der.Tag.sequence Any.decode GeneralName.ofElement?))

/-- Octets are hosts if they are a list of their names. -/
theorem decode_eq_ok {octets : Octets} {hosts : Hosts} :
    decode octets = .ok hosts ↔ ∃ elements named, elements? octets = some elements ∧
      List.Forall₂ (fun element host => Host.ofElement? element = some host) elements named ∧
        ofList named = hosts := by
  simp only [decode, Except.bind_eq_ok, orError_eq_ok, listOfOctets?_eq, Option.bind_eq_some_iff,
    ofGeneralNames_eq_ok, ← Host.mapM_ofElement?_eq_some]
  constructor
  · rintro ⟨names, ⟨elements, found, read⟩, named, made, rfl⟩
    exact ⟨elements, named, found, ⟨names, read, made⟩, rfl⟩
  · rintro ⟨elements, named, found, ⟨names, read, made⟩, rfl⟩
    exact ⟨names, ⟨elements, found, read⟩, named, made, rfl⟩

/-- Every list of names of hosts is read, and no other one is. -/
theorem exists_decode_eq_ok {octets : Octets} :
    (∃ hosts, decode octets = .ok hosts) ↔
      ∃ elements, elements? octets = some elements ∧
        ∀ element ∈ elements, Host.IsElement element := by
  simp only [decode_eq_ok, ← Host.exists_ofElement?_iff, ← exists_forall₂_iff]
  constructor
  · rintro ⟨_, elements, named, found, pairs, _⟩
    exact ⟨elements, found, named, pairs⟩
  · rintro ⟨elements, found, named, pairs⟩
    exact ⟨_, elements, named, found, pairs, rfl⟩

/-! ## Writing -/

theorem exists_encode_iff {hosts : Hosts} :
    (∃ written, hosts.encode = .ok written) ↔
      ∀ text ∈ hosts.texts, Text.isForeign text = false := by
  have noneForeign : (∀ text ∈ hosts.texts, Text.isForeign text = false) ↔
      hosts.firstForeign? = none := by simp [firstForeign?]
  simp only [encode_eq_ok, noneForeign, exists_and_left, exists_eq', and_true]

theorem generalNames_unmapped (hosts : Hosts) :
    hosts.unmapped.generalNames = hosts.generalNames := by
  simp [generalNames, unmapped, Function.comp_def]

theorem encode_unmapped (hosts : Hosts) : hosts.unmapped.encode = hosts.encode := by
  rw [encode_eq, encode_eq, generalNames_unmapped]
  rfl

/-- Hosts that were read can be written and are read back. -/
theorem exists_encode_of_decode {octets : Octets} {hosts : Hosts}
    (read : decode octets = .ok hosts) :
    ∃ written, hosts.encode = .ok written ∧ decode written = .ok hosts.unmapped := by
  rcases decode_eq_ok.mp read with ⟨elements, named, found, pairs, rfl⟩
  rcases Host.rewritten_of_forall₂ pairs with ⟨plainNamed, shorter⟩
  -- The names are written kind by kind, which changes nothing but their order; so the bound on what
  -- was read is one on what is written.
  have order : (ofList named).generalNames.Perm (named.map Host.generalName) :=
    generalNames_eq _ ▸ (toList_ofList named).map Host.generalName
  have plain : ∀ name ∈ (ofList named).generalNames, name.IsPlain :=
    fun name member => plainNamed name (order.mem_iff.mp member)
  have short : ((ofList named).generalNames.flatMap GeneralName.encode).length ≤ Der.maxLength :=
    calc ((ofList named).generalNames.flatMap GeneralName.encode).length
      _ = ((named.map Host.generalName).flatMap GeneralName.encode).length :=
          (order.flatMap_right _).length_eq
      _ ≤ (elements.flatMap Any.encode).length := shorter
      _ ≤ Der.maxLength := Der.exact_any.length_flatMap_le (Der.complete_eq_some.mp found)
  exact ⟨_, encode_eq_ok.mpr ⟨firstForeign?_eq_none.mpr plain, rfl⟩, decode_encodeList plain short⟩

theorem length_of_decode {octets : Octets} {hosts : Hosts} (read : decode octets = .ok hosts) :
    ∃ elements named, elements? octets = some elements ∧
      List.Forall₂ (fun element host => Host.ofElement? element = some host) elements named ∧
        hosts = ofList named ∧ hosts.size = elements.length := by
  rcases decode_eq_ok.mp read with ⟨elements, named, found, pairs, rfl⟩
  exact ⟨elements, named, found, pairs, rfl, (size_ofList named).trans pairs.length_eq.symm⟩

/-- Hosts are written unless a name is foreign, of which the first is reported, and read back but
for addresses that stand for others.  Of octets, lists of names of hosts are read; no name of them
is lost, and the hosts are written and read back. -/
theorem alternativeNames_readBack (hosts : Hosts) (octets : Octets) :
    ((∃ written, hosts.encode = .ok written) ↔
        ∀ text ∈ hosts.texts, Text.isForeign text = false) ∧
      (∀ name, hosts.texts.find? Text.isForeign = some name →
        hosts.encode = .error (.notAscii name) ∧ (Error.notAscii name).kind = .validation) ∧
      (∀ written, hosts.encode = .ok written → written.length ≤ Der.maxLength →
        decode written = .ok hosts.unmapped ∧ hosts.unmapped.encode = .ok written) ∧
      (∀ address ∈ hosts.ipAddresses,
        address.octets = IpAddress.mappedPrefix ++ address.unmapped.octets ∨
          ¬ IpAddress.mappedPrefix <+: address.octets ∧ address.unmapped = address) ∧
      ((∃ read, decode octets = .ok read) ↔
        ∃ elements, elements? octets = some elements ∧
          ∀ element ∈ elements, Host.IsElement element) ∧
      ∀ read, decode octets = .ok read →
        (∃ elements named, elements? octets = some elements ∧
          List.Forall₂ (fun element host => Host.ofElement? element = some host) elements named ∧
            read = ofList named ∧ read.size = elements.length) ∧
        ∃ written, read.encode = .ok written ∧ decode written = .ok read.unmapped := by
  refine ⟨exists_encode_iff, ?reports, ?readsBack, ?mapped, exists_decode_eq_ok, ?accepted⟩
  case reports =>
    intro name first
    rw [encode_eq, firstForeign?, first]
    exact ⟨rfl, rfl⟩
  case readsBack =>
    intro written encoded short
    exact ⟨readsBack hosts written encoded short, (encode_unmapped hosts).trans encoded⟩
  case mapped =>
    intro address _
    by_cases mapped : IpAddress.mappedPrefix <+: address.octets
    · exact Or.inl (IpAddress.octets_of_mapped mapped)
    · exact Or.inr ⟨mapped, IpAddress.unmapped_of_not_mapped mapped⟩
  case accepted =>
    intro read decoded
    exact ⟨length_of_decode decoded, exists_encode_of_decode decoded⟩

/-- An address that stands for another one is read with its own octets and written with those of
the other, behind a name that came after it. -/
theorem alternativeNames_readBack_mapped :
    decode [0x30, 0x0b, 0x82, 0x03, 0x61, 0x2e, 0x62, 0x87, 0x04, 0x0a, 0x00, 0x00, 0x01] =
        .ok { dnsNames := ["a.b"], ipAddresses := [.v4 10 0 0 1] } ∧
      (∃ written,
        encode { dnsNames := ["a.b"], ipAddresses := [.v6 0 0 0 0 0 0xffff 0x0a00 1] } =
            .ok written ∧
          decode written = .ok { dnsNames := ["a.b"], ipAddresses := [.v4 10 0 0 1] }) ∧
      encode { dnsNames := ["a.b"], uris := ["urn:ö"] } = .error (.notAscii "urn:ö") := by
  have laws := alternativeNames_readBack
    { dnsNames := ["a.b"], ipAddresses := [.v6 0 0 0 0 0 0xffff 0x0a00 1] }
    [0x30, 0x17, 0x87, 0x10, 0, 0, 0, 0, 0, 0, 0, 0, 0, 0, 0xff, 0xff, 0x0a, 0x00, 0x00, 0x01,
      0x82, 0x03, 0x61, 0x2e, 0x62]
  exact ⟨(laws.2.2.1 _ rfl (by decide)).1, (laws.2.2.2.2.2 _ rfl).2,
    ((alternativeNames_readBack { dnsNames := ["a.b"], uris := ["urn:ö"] } []).2.1 "urn:ö" rfl).1⟩

end Hosts

end CertAuthority
