import CertAuthority.Proofs.X509.Certificate
import CertAuthority.X509.CertificationRequest

/-!
# Reading certification requests back

A certification request is read back from its octets if its attributes are in
order and the values of each are (`IsReadable`).  The extensions in it are read
by a second decoder.  `Extension.decodeWith` takes the decoder of identifiers as
a parameter: the usual one refuses identifiers of two octets, which can be
written, and `Oid.decodeAny` takes these too.
-/

namespace CertAuthority

open Der (Any Decoder Fills Oid Reads)

/-- Reads an identifier, however short it is. -/
def Der.Oid.decodeAny : Decoder Oid := fun octets => do
  let (content, rest) ← Der.decodeTagged Tag.objectIdentifier octets
  if wellFormed : isOidContent content = true then some (⟨content, wellFormed⟩, rest) else none

theorem Der.Oid.reads_any (oid : Oid) : Reads decodeAny oid.encode oid := by
  apply (Der.reads_tagged Tag.objectIdentifier oid.content).map
  intro rest
  simp [oid.wellFormed]

namespace X509

/-! ## Extensions -/

namespace Extension

/-- Reads an extension whose identifier a given decoder reads. -/
def decodeWith (identifier : Decoder Oid) : Decoder Extension :=
  decodeParts identifier (Der.decodeOptional Der.Tag.boolean Der.decodeBoolean)

theorem reads_with {identifier : Decoder Oid} {extension : Extension}
    (readable : Reads identifier extension.oid.encode extension.oid) :
    Reads (decodeWith identifier) extension.encode extension :=
  (readsIf_parts readable.readsIf (fun _ => Der.decodeOptional_absent)
    (Reads.optional (Der.reads_boolean true))).reads trivial

theorem reads_listWith {identifier : Decoder Oid} {extensions : List Extension}
    (readable : ∀ extension ∈ extensions,
      Reads identifier extension.oid.encode extension.oid) :
    Reads (Der.decodeList Der.Tag.sequence (decodeWith identifier)) (encodeList extensions)
      extensions :=
  Der.reads_list (fun extension member => reads_with (readable extension member))
    (fun _ _ => Der.encode_ne_nil _ _)

end Extension

/-! ## Attributes -/

namespace RequestAttribute

/-- Whether the identifier can be read and the values are elements in ascending order. -/
structure IsReadable (item : RequestAttribute) : Prop where
  oid : item.oid.isReadable = true
  values : ∃ elements, Der.IsAscending Any.encode elements ∧ item.values = elements.map Any.encode

theorem reads {item : RequestAttribute} (readable : item.IsReadable) :
    Reads decode item.encode item := by
  rcases item with ⟨oid, values⟩
  rcases readable with ⟨oidReadable, elements, ascending, shape⟩
  subst shape
  refine Fills.nested ((Der.reads_oid oidReadable).bind ?_)
  rw [← List.flatMap_def]
  have members : Reads (Der.decodeList Der.Tag.set Any.decode)
      (Der.encode Der.Tag.set (elements.flatMap Any.encode)) elements :=
    Der.reads_list (fun element _ => Der.reads_any element) (fun _ _ => Der.encode_ne_nil _ _)
  apply members.last
  simp [Der.sortSet_of_ascending ascending]

theorem encodeList_infix (extensions : List Extension) :
    Extension.encodeList extensions <:+: (ofExtensions extensions).encode := by
  have value : Extension.encodeList extensions <:+: [Extension.encodeList extensions].flatten :=
    List.infix_of_mem_flatten (List.mem_singleton_self _)
  exact Der.infix_encode ((Der.infix_encode value).trans (List.suffix_append _ _).isInfix)

theorem isReadable_ofExtensions (extensions : List Extension) :
    (ofExtensions extensions).IsReadable where
  oid := (by decide : extensionsOid.isReadable = true)
  values := ⟨[⟨Der.Tag.sequence, extensions.flatMap Extension.encode⟩],
    List.pairwise_singleton _ _, rfl⟩

end RequestAttribute

/-! ## Requests -/

/-- Whether the parts can be read and the attributes are in ascending order. -/
structure CertificationRequestInfo.IsReadable (info : CertificationRequestInfo) : Prop where
  subject : info.subject.IsReadable
  publicKey : info.publicKey.IsReadable
  each : ∀ item ∈ info.requestAttributes, item.IsReadable
  ascending : Der.IsAscending RequestAttribute.encode info.requestAttributes

theorem CertificationRequestInfo.reads {info : CertificationRequestInfo}
    (readable : info.IsReadable) : Reads decode info.encode info := by
  have items : Reads (Der.decodeList (Der.Tag.constructedField 0) RequestAttribute.decode)
      (Der.encode (Der.Tag.constructedField 0)
        (info.requestAttributes.flatMap RequestAttribute.encode)) info.requestAttributes :=
    Der.reads_list (fun item member => RequestAttribute.reads (readable.each item member))
      (fun _ _ => Der.encode_ne_nil _ _)
  apply Fills.nested
  rw [List.append_assoc, List.append_assoc]
  apply (Der.reads_unsigned version).bind
  simp only [if_true]
  apply ((Name.readsIf info.subject).reads readable.subject).bind
  apply (info.publicKey.readsIf.reads readable.publicKey).bind
  apply items.last
  simp [Der.sortSet_of_ascending readable.ascending]

namespace CertificationRequest

theorem reads {request : CertificationRequest} (info : request.info.IsReadable)
    (algorithm : request.signatureAlgorithm.IsReadable) :
    Reads decode request.encode request := by
  apply Fills.nested
  rw [List.append_assoc]
  apply (CertificationRequestInfo.reads info).bind
  apply (request.signatureAlgorithm.readsIf.reads algorithm).bind
  exact request.signature.reads.last rfl

theorem info_infix (request : CertificationRequest) : request.info.encode <:+: request.encode := by
  refine Der.infix_encode ?_
  rw [List.append_assoc]
  exact (List.prefix_append _ _).isInfix

theorem publicKey_infix (request : CertificationRequest) :
    request.info.publicKey.encode <:+: request.encode := by
  have inside : request.info.publicKey.encode <:+: request.info.encode :=
    Der.infix_encode (((List.suffix_append _ _).isInfix).trans (List.prefix_append _ _).isInfix)
  exact inside.trans request.info_infix

theorem attribute_infix {request : CertificationRequest} {item : RequestAttribute}
    (member : item ∈ request.info.requestAttributes) : item.encode <:+: request.encode := by
  have among : item.encode <:+: request.info.requestAttributes.flatMap RequestAttribute.encode :=
    List.infix_of_mem_flatten (List.mem_map_of_mem member)
  have inside : item.encode <:+: request.info.encode :=
    Der.infix_encode ((Der.infix_encode among).trans (List.suffix_append _ _).isInfix)
  exact inside.trans request.info_infix

/-- The extensions that are asked for, read with a given decoder of identifiers. -/
def extensionsWith? (identifier : Decoder Oid) (request : CertificationRequest) :
    Option (List Extension) :=
  match request.info.requestAttributes.find? (·.oid = RequestAttribute.extensionsOid) with
  | none => some []
  | some item =>
      match item.values with
      | [value] =>
          Der.complete (Der.decodeList Der.Tag.sequence (Extension.decodeWith identifier)) value
      | _ => none

theorem extensionsWith?_usual (request : CertificationRequest) :
    request.extensionsWith? Oid.decode = request.extensions? := rfl

end CertificationRequest

end X509

end CertAuthority
