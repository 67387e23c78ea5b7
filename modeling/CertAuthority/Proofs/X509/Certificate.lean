import CertAuthority.Proofs.X509.Reader
import Mathlib.Tactic.MkIffOfInductiveProp

/-!
# Reading certificates back

The octets of a certificate are read as that certificate by each lawful reader,
or not at all: they are not read if one of its identifiers is too short for
that, or if its serial number is not in its shortest form or too long
(`Certificate.IsReadable`).  Nothing else about a certificate matters, and no
octets of a certificate are read as another one.
-/

namespace CertAuthority.X509

open Der (BitString Decoder FillsIf IsBeyond Reads ReadsIf)

/-- What reading demands of a signed part beyond the types of its fields. -/
@[mk_iff]
structure TbsCertificate.IsReadable (tbs : TbsCertificate) : Prop where
  serialNumber : tbs.serialNumber.IsReadable
  signatureAlgorithm : tbs.signatureAlgorithm.IsReadable
  issuer : tbs.issuer.IsReadable
  subject : tbs.subject.IsReadable
  publicKey : tbs.publicKey.IsReadable
  extensions : ∀ extension ∈ tbs.extensions.getD [], extension.oid.isReadable = true

instance (tbs : TbsCertificate) : Decidable tbs.IsReadable :=
  decidable_of_iff _ (TbsCertificate.isReadable_iff tbs).symm

/-- What reading demands of a certificate beyond the types of its fields. -/
@[mk_iff]
structure Certificate.IsReadable (certificate : Certificate) : Prop where
  tbs : certificate.tbs.IsReadable
  signatureAlgorithm : certificate.signatureAlgorithm.IsReadable

instance (certificate : Certificate) : Decidable certificate.IsReadable :=
  decidable_of_iff _ (Certificate.isReadable_iff certificate).symm

/-! ## Lawful readers -/

namespace Reader

theorem usual_isLawful : usual.IsLawful where
  skips _ _ _ beyond := Der.decodeField_absent beyond
  finds _ _ _ _ _ _ numbered readsIf := readsIf.field numbered
  found _ _ _ _ _ read := (Der.exists_of_decodeFieldAfter read).imp fun _ found => found.2
  version version _ := version.reads
  notCritical _ absent := Der.decodeOptional_absent absent
  critical := Reads.optional (Der.reads_boolean true)
  relativeName := RelativeName.readsIf
  readable _ _ _ read := RelativeName.isReadable_of_decode read

namespace IsLawful

variable {reader : Reader} {result : TbsCertificate} {condition : Prop}

theorem readsIf_extensions (lawful : reader.IsLawful) (extensions : List Extension) :
    ReadsIf (∀ extension ∈ extensions, extension.oid.isReadable = true) reader.extensions
      (Extension.encodeList extensions) extensions :=
  Der.readsIf_list
    (fun extension _ => Extension.readsIf_parts (Der.readsIf_oid extension.oid) lawful.notCritical
      lawful.critical)
    (fun _ _ => Der.encode_ne_nil _ _)

theorem readsIf_name (lawful : reader.IsLawful) (name : Name) :
    ReadsIf name.IsReadable reader.name name.encode name :=
  Der.readsIf_list (fun part _ => lawful.relativeName part) (fun _ _ => Der.encode_ne_nil _ _)

theorem readsIf_wrapped (lawful : reader.IsLawful) {α : Type} {number : Nat} {decoder : Decoder α}
    {octets : Octets} {value : α} (small : number < 31)
    (readsIf : ReadsIf condition decoder octets value) :
    ReadsIf condition (reader.wrapped number decoder)
      (Der.encode (Der.Tag.constructedField number) octets) (some value) :=
  lawful.finds _ _ _ _ _ _ (Der.contextNumber?_constructedField small) readsIf.fillsIf.nested

theorem fillsIf_version (lawful : reader.IsLawful) {version : Version}
    {next : Option Version × Octets → Option (TbsCertificate × Octets)} {octets : Octets}
    (beyond : IsBeyond 0 octets) (first : ∀ rest, next (none, rest) = next (some .v1, rest))
    (fillsIf : FillsIf condition (fun octets => next (some version, octets)) octets result) :
    FillsIf condition (fun octets => reader.wrapped 0 reader.version octets >>= next)
      (TbsCertificate.encodeVersion version ++ octets) result := by
  unfold TbsCertificate.encodeVersion
  split
  · rename_i isFirst
    subst isFirst
    rw [List.nil_append]
    apply FillsIf.absent (lawful.skips _ _ _ beyond)
    simp only [first]
    exact fillsIf
  · rename_i later
    have written := lawful.readsIf_wrapped (by decide : 0 < 31)
      (lawful.version version later).readsIf
    exact (written.reads trivial).bindIf fillsIf

theorem fillsIf_id (lawful : reader.IsLawful) {number : Nat} (small : number < 31)
    {id : Option BitString} {next : Option BitString × Octets → Option (TbsCertificate × Octets)}
    {octets : Octets} (beyond : IsBeyond number octets)
    (fillsIf : FillsIf condition (fun octets => next (id, octets)) octets result) :
    FillsIf condition (fun octets => reader.id number octets >>= next)
      (TbsCertificate.encodeId number id ++ octets) result := by
  cases id with
  | none => exact FillsIf.absent (lawful.skips _ _ _ beyond) fillsIf
  | some bits =>
      have found := lawful.finds _ _ _ _ _ _ (Der.contextNumber?_field small)
        (BitString.reads_as (Der.Tag.field number) bits).readsIf
      exact (found.reads trivial).bindIf fillsIf

theorem fillsIf_extensions (lawful : reader.IsLawful) {extensions : Option (List Extension)}
    {next : Option (List Extension) × Octets → Option (TbsCertificate × Octets)}
    (final : next (extensions, []) = some (result, [])) :
    FillsIf (∀ extension ∈ extensions.getD [], extension.oid.isReadable = true)
      (fun octets => reader.wrapped 3 reader.extensions octets >>= next)
      (TbsCertificate.encodeExtensions extensions) result := by
  cases extensions with
  | none =>
      have missing : Der.Fills (fun octets => reader.wrapped 3 reader.extensions octets >>= next)
          (TbsCertificate.encodeExtensions none) result :=
        Der.Fills.absent (lawful.skips _ _ _ (Der.isBeyond_nil 3)) fun _ => final
      exact missing.fillsIf.congr (iff_of_true trivial (List.forall_mem_nil _))
  | some list =>
      exact (lawful.readsIf_wrapped (by decide) (lawful.readsIf_extensions list)).last final

end IsLawful

end Reader

namespace TbsCertificate

theorem isBeyond_extensions {number : Nat} (earlier : number < 3)
    (extensions : Option (List Extension)) : IsBeyond number (encodeExtensions extensions) := by
  cases extensions with
  | none => exact Der.isBeyond_nil number
  | some list =>
      unfold encodeExtensions
      rw [Option.map_some, Option.getD_some,
        ← List.append_nil (Der.encode (Der.Tag.constructedField 3) (Extension.encodeList list))]
      apply Der.isBeyond_encode
      intro found numbered
      rw [Der.contextNumber?_constructedField (by decide)] at numbered
      rwa [← Option.some.inj numbered]

theorem isBeyond_id {number later : Nat} (small : later < 31) (earlier : number < later)
    (id : Option BitString) {rest : Octets} (beyond : IsBeyond number rest) :
    IsBeyond number (encodeId later id ++ rest) := by
  cases id with
  | none => exact beyond
  | some bits =>
      apply Der.isBeyond_encode
      intro found numbered
      rw [Der.contextNumber?_field small] at numbered
      rwa [← Option.some.inj numbered]

end TbsCertificate

/-! ## Certificates -/

namespace Reader.IsLawful

variable {reader : Reader}

theorem fillsIf_tbs (lawful : reader.IsLawful) (tbs : TbsCertificate) :
    FillsIf tbs.IsReadable reader.tbsContent
      (TbsCertificate.encodeVersion tbs.version ++ tbs.serialNumber.encode ++
        tbs.signatureAlgorithm.encode ++ tbs.issuer.encode ++ tbs.validity.encode ++
          tbs.subject.encode ++ tbs.publicKey.encode ++ TbsCertificate.encodeId 1 tbs.issuerId ++
            TbsCertificate.encodeId 2 tbs.subjectId ++
              TbsCertificate.encodeExtensions tbs.extensions) tbs := by
  have beyondIssuer : IsBeyond 1 (TbsCertificate.encodeId 2 tbs.subjectId ++
      TbsCertificate.encodeExtensions tbs.extensions) :=
    TbsCertificate.isBeyond_id (by decide) (by decide) tbs.subjectId
      (TbsCertificate.isBeyond_extensions (by decide) _)
  have beyondVersion : ∀ rest, IsBeyond 0 (tbs.serialNumber.encode ++ rest) := by
    intro rest
    apply Der.isBeyond_encode
    intro found numbered
    cases numbered
  rw [TbsCertificate.isReadable_iff]
  simp only [List.append_assoc]
  apply lawful.fillsIf_version (beyondVersion _) (fun rest => rfl)
  apply tbs.serialNumber.readsIf.bind
  apply tbs.signatureAlgorithm.readsIf.bind
  apply (lawful.readsIf_name tbs.issuer).bind
  apply tbs.validity.reads.bindIf
  apply (lawful.readsIf_name tbs.subject).bind
  apply tbs.publicKey.readsIf.bind
  apply lawful.fillsIf_id (by decide) beyondIssuer
  apply lawful.fillsIf_id (by decide) (TbsCertificate.isBeyond_extensions (by decide) tbs.extensions)
  exact lawful.fillsIf_extensions rfl

end Reader.IsLawful

namespace Certificate

theorem fillsIf (certificate : Certificate) :
    FillsIf certificate.IsReadable decodeContent (certificate.tbs.encode ++
      certificate.signatureAlgorithm.encode ++ certificate.signature.encode) certificate := by
  rw [isReadable_iff]
  simp only [List.append_assoc]
  apply (Reader.usual_isLawful.fillsIf_tbs certificate.tbs).nested.bind
  apply certificate.signatureAlgorithm.readsIf.bindFills
  exact certificate.signature.reads.last rfl

/-- The octets of a certificate are read as that certificate or not at all. -/
theorem readsIf (certificate : Certificate) :
    ReadsIf certificate.IsReadable decode certificate.encode certificate :=
  certificate.fillsIf.nested

end Certificate

end CertAuthority.X509
