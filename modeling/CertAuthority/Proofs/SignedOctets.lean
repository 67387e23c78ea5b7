import CertAuthority.Proofs.Verification
import CertAuthority.Proofs.X509.Distinguished

/-!
# What signatures of certificates are checked over

The signature of a certificate is checked over its signed part as it is written
again, not over the octets that were read.  The two are the same exactly if the
stricter reader takes the signed part (`X509.IsDistinguished`).  Otherwise the
signature is not checked over what the issuer has signed: one that the issuer
made over the octets of the certificate is refused, and one over the form that
is written again is accepted.
-/

namespace CertAuthority

open X509 (Certificate IsDistinguished TbsCertificate)

namespace X509.Certificate

/-- Checks the signature of a certificate, as one over the given octets, with the key of an
issuer. -/
def verifyOver (certificate issuer : Certificate) (signed : Octets) : Except Error Unit := do
  let algorithm ← orError (.unsupportedSignature certificate.signatureAlgorithm.oid)
    certificate.knownAlgorithm?
  verifySignature algorithm issuer.tbs.publicKey signed certificate.signature.octets

theorem verifyOver_encode (certificate issuer : Certificate) :
    certificate.verifyOver issuer certificate.tbs.encode = certificate.verifyIssuedBy issuer := rfl

/-- What is written again for a certificate that was read is read as the same certificate. -/
theorem ofOctets_encode_of_ofOctets {octets : Octets} {certificate : Certificate}
    (read : ofOctets octets = .ok certificate)
    (bound : certificate.encode.length ≤ Der.maxLength) :
    ofOctets certificate.encode = .ok certificate :=
  (ofOctets_encode bound).trans (if_pos (isReadable_of_ofOctets read))

/-- The signature of a certificate that was read is checked over the signed part as it is written
again, in which form the certificate is read as the same one.  These are the octets that were
read, and the whole certificate is written again as it was, exactly if the stricter reader takes
the signed part. -/
theorem verifyIssuedBy_signedOctets {octets : Octets} {certificate : Certificate}
    (read : ofOctets octets = .ok certificate) :
    ∃ signed, signedOctets? octets = some signed ∧
      (certificate.encode = octets ↔ IsDistinguished signed) ∧
        (certificate.tbs.encode = signed ↔ IsDistinguished signed) ∧
          (certificate.encode.length ≤ Der.maxLength →
            ofOctets certificate.encode = .ok certificate) ∧
          ∀ issuer : Certificate,
            certificate.verifyIssuedBy issuer =
                certificate.verifyOver issuer certificate.tbs.encode ∧
              (IsDistinguished signed →
                certificate.verifyIssuedBy issuer = certificate.verifyOver issuer signed) := by
  have whole := orError_eq_ok.mp read
  rcases exists_signedOctets whole with ⟨signed, part, partRead, _⟩
  have same := TbsCertificate.encode_eq_iff partRead
  refine ⟨signed, part, (encode_eq_iff whole part).trans same, same,
    ofOctets_encode_of_ofOctets read, fun issuer => ⟨rfl, ?_⟩⟩
  intro distinguished
  rw [← verifyOver_encode, same.mpr distinguished]

end X509.Certificate

/-! ## An issuer -/

/-- The octets that are read from a certificate are the ones that were signed. -/
theorem exampleIssuer_signs_its_octets : ∃ issuer signed,
    Certificate.ofOctets issuer.encode = .ok issuer ∧
      X509.signedOctets? issuer.encode = some signed ∧ IsDistinguished signed ∧
        issuer.verifyOver issuer signed = .ok () := by
  rcases exists_usualIssuer with ⟨issuer, read, _, accepted⟩
  rcases Certificate.verifyIssuedBy_signedOctets read with
    ⟨signed, part, whole, _, _, checked⟩
  have distinguished := whole.mp rfl
  exact ⟨issuer, signed, read, part, distinguished,
    ((checked issuer).2 distinguished).symm.trans accepted⟩

/-! ## A criticality that is written -/

/-- A signed part for the generator of the smallest curve, with an extension that is not
critical. -/
def exampleTbs : TbsCertificate :=
  { version := .v3
    serialNumber := .ofNat 1
    signatureAlgorithm := SignatureAlgorithm.rsaSha256.identifier
    issuer := DistinguishedName.toName { commonName := "root" }
    validity := ⟨⟨.utc, 0, by decide⟩, ⟨.utc, 86400, by decide⟩⟩
    subject := DistinguishedName.toName { commonName := "leaf" }
    publicKey := ⟨NistCurve.p224.keyIdentifier, Der.BitString.ofOctets
      (NistCurve.p224.encodePoint
        (.affine NistCurve.p224.params.generatorX NistCurve.p224.params.generatorY))⟩
    issuerId := none
    subjectId := none
    extensions := some [⟨BasicConstraints.oid, false, BasicConstraints.encode ⟨false, none⟩⟩] }

/-- The extension with its criticality written. -/
def exampleExtension : Octets :=
  Der.encode Der.Tag.sequence
    (BasicConstraints.oid.encode ++ Der.encodeBoolean false ++
      Der.encodeOctetString (BasicConstraints.encode ⟨false, none⟩))

/-- The signed part with the criticality of its extension written. -/
def exampleOctets : Octets :=
  Der.encode Der.Tag.sequence
    (TbsCertificate.encodeVersion exampleTbs.version ++ exampleTbs.serialNumber.encode ++
      exampleTbs.signatureAlgorithm.encode ++ exampleTbs.issuer.encode ++
        exampleTbs.validity.encode ++ exampleTbs.subject.encode ++ exampleTbs.publicKey.encode ++
          Der.encode (Der.Tag.constructedField 3) (Der.encode Der.Tag.sequence exampleExtension))

theorem complete_exampleOctets :
    Der.complete TbsCertificate.decode exampleOctets = some exampleTbs := by
  decide +kernel

theorem not_isDistinguished_exampleOctets : ¬ IsDistinguished exampleOctets := by
  decide +kernel

theorem digest_exampleOctets_ne :
    Hash.Algorithm.sha256.digest exampleTbs.encode ≠ Hash.Algorithm.sha256.digest exampleOctets := by
  decide +kernel

/-- The certificate of the example with a signature. -/
def exampleCertificate (signature : Octets) : Certificate :=
  ⟨exampleTbs, SignatureAlgorithm.rsaSha256.identifier, Der.BitString.ofOctets signature⟩

/-- The octets of that certificate, with the criticality written. -/
def exampleFile (signature : Octets) : Octets :=
  Der.encode Der.Tag.sequence
    (exampleOctets ++ (exampleCertificate signature).signatureAlgorithm.encode ++
      (exampleCertificate signature).signature.encode)

theorem length_exampleFile_le {signature : Octets} (short : signature.length ≤ 1000) :
    (exampleOctets ++ (exampleCertificate signature).signatureAlgorithm.encode ++
      (exampleCertificate signature).signature.encode).length ≤ Der.maxLength := by
  have first : exampleOctets.length ≤ 1000 := by decide +kernel
  have second : (exampleCertificate signature).signatureAlgorithm.encode.length ≤ 20 :=
    SignatureAlgorithm.rsaSha256.length_encode_identifier
  have third : (exampleCertificate signature).signature.encode.length ≤ signature.length + 7 :=
    Der.BitString.length_encode_ofOctets_le (by rw [Der.maxLength]; omega)
  rw [List.length_append, List.length_append, Der.maxLength]
  omega

theorem ofOctets_exampleFile {signature : Octets} (short : signature.length ≤ 1000) :
    Certificate.ofOctets (exampleFile signature) = .ok (exampleCertificate signature) := by
  rcases Der.complete_decodeNested_encode.mp complete_exampleOctets with ⟨_, content⟩
  have part : Der.Reads TbsCertificate.decode exampleOctets exampleTbs :=
    Der.Fills.nested fun _ => Der.complete_eq_some.mp content
  have parts : Der.Fills Certificate.decodeContent
      (exampleOctets ++ (exampleCertificate signature).signatureAlgorithm.encode ++
        (exampleCertificate signature).signature.encode) (exampleCertificate signature) := by
    simp only [List.append_assoc]
    apply part.bind
    apply (SignatureAlgorithm.rsaSha256.identifier.readsIf.reads (by decide)).bind
    exact (exampleCertificate signature).signature.reads.last rfl
  have bound := length_exampleFile_le short
  have whole : Der.complete Certificate.decode (exampleFile signature) =
      some (exampleCertificate signature) :=
    Der.complete_decodeNested_encode.mpr ⟨bound, parts.complete bound⟩
  rw [Certificate.ofOctets, whole]
  rfl

theorem signedOctets?_exampleFile {signature : Octets} (short : signature.length ≤ 1000) :
    X509.signedOctets? (exampleFile signature) = some exampleOctets := by
  have bound := length_exampleFile_le short
  rw [List.append_assoc] at bound
  rw [exampleFile, List.append_assoc]
  exact X509.signedOctets?_encode bound

/-- The certificate is not written again as it was. -/
theorem encode_exampleCertificate_ne {signature : Octets} (short : signature.length ≤ 1000) :
    (exampleCertificate signature).encode ≠ exampleFile signature := by
  intro same
  have read := orError_eq_ok.mp (ofOctets_exampleFile short)
  have part := (Certificate.encode_eq_iff read (signedOctets?_exampleFile short)).mp same
  exact not_isDistinguished_exampleOctets
    ((TbsCertificate.encode_eq_iff complete_exampleOctets).mp part)

theorem exists_sign?_usualKey (message : Octets) : ∃ signature,
    Rsa.usualKey.sign? .sha256 message = some signature ∧ signature.length ≤ 1000 := by
  have bits := (Rsa.keyOfPrimes?_eq_some Rsa.usualKey_isFirst.found).1.bitLength
  have size : Rsa.usualKey.publicKey.size ≤ 1000 := by decide +kernel
  rcases KeyPair.exists_sign_of_isFirst Rsa.usualKey_isFirst (by decide) message
    exampleEnvironment with ⟨signature, signed, length⟩
  rw [KeyPair.sign_rsa, Operation.ofOption_eq_ok, bits] at signed
  exact ⟨signature, signed.1, length.le.trans size⟩

/-- The signature is accepted for the messages with the digest of the one it was made of. -/
theorem verifyOver_exampleCertificate {issuer : Certificate} {message signature : Octets}
    (publicKey : issuer.tbs.publicKey = (KeyPair.rsa Rsa.usualKey).publicKeyInfo)
    (signed : Rsa.usualKey.sign? .sha256 message = some signature) (other : Octets) :
    (exampleCertificate signature).verifyOver issuer other =
      if Hash.Algorithm.sha256.digest other = Hash.Algorithm.sha256.digest message then .ok ()
      else .error .invalidSignature := by
  have known : (exampleCertificate signature).knownAlgorithm? = some .rsaSha256 :=
    SignatureAlgorithm.ofOid?_oid .rsaSha256
  have usable := (KeyPair.isUnchecked_rsa _).not.mp KeyPair.not_isUnchecked_usualKey
  rw [Certificate.verifyOver, known, orError_some_bind, publicKey]
  exact (verifyRsa_of_sign? signed other).trans (if_neg usable)

/-- A genuine signature of the octets of a certificate is refused if they say that an extension is
not critical, and a signature of other octets is accepted. -/
theorem writtenCriticality_is_refused : ∃ issuer genuine forged,
    Certificate.ofOctets issuer.encode = .ok issuer ∧
      Certificate.ofOctets (exampleFile genuine) = .ok (exampleCertificate genuine) ∧
      Certificate.ofOctets (exampleFile forged) = .ok (exampleCertificate forged) ∧
      X509.signedOctets? (exampleFile genuine) = some exampleOctets ∧
      X509.signedOctets? (exampleFile forged) = some exampleOctets ∧
        (exampleCertificate genuine).encode ≠ exampleFile genuine ∧
        (exampleCertificate genuine).verifyOver issuer exampleOctets = .ok () ∧
        (exampleCertificate genuine).verifyIssuedBy issuer = .error .invalidSignature ∧
        (exampleCertificate forged).verifyOver issuer exampleOctets = .error .invalidSignature ∧
        (exampleCertificate forged).verifyIssuedBy issuer = .ok () := by
  rcases exists_usualIssuer with ⟨issuer, read, publicKey, _⟩
  rcases exists_sign?_usualKey exampleOctets with ⟨genuine, genuineSigned, genuineShort⟩
  rcases exists_sign?_usualKey exampleTbs.encode with ⟨forged, forgedSigned, forgedShort⟩
  refine ⟨issuer, genuine, forged, read, ofOctets_exampleFile genuineShort,
    ofOctets_exampleFile forgedShort, signedOctets?_exampleFile genuineShort,
    signedOctets?_exampleFile forgedShort, encode_exampleCertificate_ne genuineShort,
    ?_, ?_, ?_, ?_⟩
  · exact (verifyOver_exampleCertificate publicKey genuineSigned _).trans (if_pos rfl)
  · exact (verifyOver_exampleCertificate publicKey genuineSigned _).trans
      (if_neg digest_exampleOctets_ne)
  · exact (verifyOver_exampleCertificate publicKey forgedSigned _).trans
      (if_neg digest_exampleOctets_ne.symm)
  · exact (verifyOver_exampleCertificate publicKey forgedSigned _).trans (if_pos rfl)

end CertAuthority
