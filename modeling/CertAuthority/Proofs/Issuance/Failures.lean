import CertAuthority.Issuance.Material
import CertAuthority.Proofs.Key.Pair

/-!
# What can go wrong

The steps from a request to a certificate fail for reasons that have to do with
the request, its time or a fresh key.  Each step is settled on its own; an
issuer adds failures of two kinds only: the identifier of its key cannot be
read, or its key does not sign.
-/

namespace CertAuthority

/-- Whether an error is about what is asked for, or about making a key for it. -/
def Error.isOfRequest : Error → Bool
  | malformedRequest | unknownKeyAlgorithm _ | negativeKeySize _ | invalidKeySize _ _ | noSubject
  | noUsage | notAscii _ | expirationOutOfRange _ | keyGenerationFailed | unwritableTime
  | overlong => true
  | _ => false

/-- Failures that are about what is asked for. -/
def IsOfRequest (error : Error) : Prop := error.isOfRequest = true

/-! ## Requests and keys -/

theorem KeyAlgorithm.validateSize_failsWithin (algorithm : KeyAlgorithm) (size : Nat) :
    Except.FailsWithin IsOfRequest (algorithm.validateSize size) := by
  unfold validateSize
  split
  · exact Except.FailsWithin.ok _
  · exact Except.FailsWithin.error rfl

theorem KeyAlgorithm.validate_failsWithin (name : String) (size : Nat) :
    Except.FailsWithin IsOfRequest (validate name size) := by
  refine Except.FailsWithin.bind (Except.FailsWithin.orError (by rfl) _) ?_
  intro algorithm
  exact (algorithm.validateSize_failsWithin size).bind fun _ => Except.FailsWithin.ok _

theorem CertificateRequest.ofDocument_failsWithin (document : RequestDocument) :
    Except.FailsWithin IsOfRequest (ofDocument document) := by
  have keySize : Except.FailsWithin IsOfRequest (keySizeOf document.keySize) := by
    unfold keySizeOf
    split
    · exact Except.FailsWithin.ok _
    · split
      · exact Except.FailsWithin.error rfl
      · exact Except.FailsWithin.ok _
  refine keySize.bind fun size => (KeyAlgorithm.validate_failsWithin _ _).bind ?_
  intro algorithm
  simp only
  split
  · exact Except.FailsWithin.error rfl
  · exact Except.FailsWithin.ok _

theorem CertificateRequest.parse_failsWithin (document : Octets) :
    Except.FailsWithin IsOfRequest (parse document) := by
  unfold parse
  split
  · exact Except.FailsWithin.error rfl
  · exact ofDocument_failsWithin _

theorem Rsa.findPrime_failsWithin (bits attempts : Nat) :
    Operation.FailsWithin (· = .keyGenerationFailed) (findPrime bits attempts) := by
  induction attempts with
  | zero => exact Operation.FailsWithin.throw rfl
  | succ attempts ih =>
      refine (Operation.FailsWithin.draw _).bind ?_
      intro octets
      simp only
      split
      · exact Operation.FailsWithin.pure _
      · exact ih

theorem Rsa.generateWithin_failsWithin (bits attempts : Nat) :
    Operation.FailsWithin (· = .keyGenerationFailed) (generateWithin bits attempts) := by
  induction attempts with
  | zero => exact Operation.FailsWithin.throw rfl
  | succ attempts ih =>
      apply (findPrime_failsWithin _ _).bind
      intro first
      apply (findPrime_failsWithin _ _).bind
      intro second
      split
      · exact Operation.FailsWithin.pure _
      · exact ih

/-- A key pair on a curve is always made: there is a curve for every size that is accepted. -/
theorem KeyPair.exists_generate_ecdsa {size : Nat}
    (accepted : KeyAlgorithm.ecdsa.acceptsSize size = true) (environment : Environment) :
    ∃ pair after, generate .ecdsa (KeyAlgorithm.ecdsa.resolveSize size) environment =
      .ok pair after := by
  have listed : size ∈ [0, 256, 384, 521] := List.contains_iff_mem.mp accepted
  simp only [List.mem_cons, List.not_mem_nil, or_false] at listed
  rcases listed with rfl | rfl | rfl | rfl <;> exact ⟨_, _, rfl⟩

theorem KeyPair.generate_rsa_failsWithin (size : Nat) :
    Operation.FailsWithin (· = .keyGenerationFailed) (generate .rsa size) :=
  (Rsa.generateWithin_failsWithin _ _).bind fun _ => Operation.FailsWithin.pure _

theorem KeyPair.generate_failsWithin {algorithm : KeyAlgorithm} {size : Nat}
    (accepted : algorithm.acceptsSize size = true) :
    Operation.FailsWithin (· = .keyGenerationFailed)
      (generate algorithm (algorithm.resolveSize size)) := by
  cases algorithm with
  | ecdsa =>
      intro environment error after failed
      rcases exists_generate_ecdsa accepted environment with ⟨pair, between, made⟩
      rw [made] at failed
      cases failed
  | rsa => exact generate_rsa_failsWithin _

/-- A size that is not accepted is refused before anything else happens. -/
theorem Key.generate_of_not_accepted {algorithm : KeyAlgorithm} {size : Nat}
    (refused : algorithm.acceptsSize size = false) (environment : Environment) :
    generate algorithm size environment = .error (.invalidKeySize algorithm size) environment := by
  have checked : algorithm.validateSize size = .error (.invalidKeySize algorithm size) :=
    if_neg (by rw [refused]; exact Bool.false_ne_true)
  rw [generate, checked]
  rfl

/-- A key of an accepted size is made unless no primes are found. -/
theorem Key.generate_failsWithin_of_accepted {algorithm : KeyAlgorithm} {size : Nat}
    (accepted : algorithm.acceptsSize size = true) :
    Operation.FailsWithin (· = .keyGenerationFailed) (generate algorithm size) := by
  have checked : algorithm.validateSize size = .ok () := if_pos accepted
  rw [generate, checked]
  refine (Operation.FailsWithin.ofExcept (Except.FailsWithin.ok ())).bind fun _ => ?_
  refine (Operation.FailsWithin.report _).bind fun _ => ?_
  exact (KeyPair.generate_failsWithin accepted).bind fun _ => Operation.FailsWithin.pure _

theorem Key.generate_failsWithin (algorithm : KeyAlgorithm) (size : Nat) :
    Operation.FailsWithin IsOfRequest (generate algorithm size) := by
  intro environment error after failed
  cases accepted : algorithm.acceptsSize size with
  | false =>
      rw [generate_of_not_accepted accepted] at failed
      cases failed
      rfl
  | true =>
      obtain rfl := generate_failsWithin_of_accepted accepted environment error after failed
      rfl

/-! ## Templates -/

theorem Usage.resolve_failsWithin (names : List String) :
    Operation.FailsWithin IsOfRequest (resolve names) := by
  have looksUp : Operation.FailsWithin IsOfRequest (lookup names) :=
    (Operation.FailsWithin.forM fun name => Operation.FailsWithin.report _).bind fun _ =>
      Operation.FailsWithin.pure _
  apply looksUp.bind
  intro usage
  split
  · exact Operation.FailsWithin.throw rfl
  · exact Operation.FailsWithin.pure _

namespace CertificateTemplate

theorem validityFrom_failsWithin (now : Instant) (lifetime : Duration) :
    Except.FailsWithin IsOfRequest (validityFrom now lifetime) := by
  unfold validityFrom
  simp only
  split
  · refine (Except.FailsWithin.orError (by rfl) _).bind ?_
    intro notBefore
    exact (Except.FailsWithin.orError (by rfl) _).bind fun _ => Except.FailsWithin.ok _
  · exact Except.FailsWithin.error rfl

theorem buildWith_failsWithin (request : CertificateRequest) (key : Key) (lifetime : Duration)
    (usage : Usage) (isCa : Bool) (now : Instant) :
    Operation.FailsWithin IsOfRequest (buildWith request key lifetime usage isCa now) := by
  refine (Operation.FailsWithin.ofExcept (validityFrom_failsWithin now lifetime)).bind
    fun validity => ?_
  exact (Operation.FailsWithin.draw _).bind fun _ => Operation.FailsWithin.pure _

/-- An extension is written unless its value cannot be. -/
theorem extensionIf_failsWithin {α : Type} [ExtensionValue α] {value : α}
    (within : Except.FailsWithin IsOfRequest (ExtensionValue.encode value))
    (wanted critical : Bool) :
    Except.FailsWithin IsOfRequest (extensionIf wanted value critical) := by
  cases wanted with
  | false => exact Except.FailsWithin.ok _
  | true =>
      exact (within.bind fun _ => Except.FailsWithin.ok _).bind fun _ =>
        Except.FailsWithin.ok _

end CertificateTemplate

theorem Hosts.asciiName_failsWithin (name : String) :
    Except.FailsWithin IsOfRequest (asciiName name) := by
  unfold asciiName
  split
  · exact Except.FailsWithin.ok _
  · exact Except.FailsWithin.error rfl

theorem Hosts.encode_failsWithin (hosts : Hosts) :
    Except.FailsWithin IsOfRequest (encode hosts) := by
  have names : Except.FailsWithin IsOfRequest hosts.toGeneralNames :=
    (Except.FailsWithin.mapM asciiName_failsWithin).bind fun dnsNames =>
      (Except.FailsWithin.mapM asciiName_failsWithin).bind fun emailAddresses =>
        (Except.FailsWithin.mapM asciiName_failsWithin).bind fun _ => Except.FailsWithin.ok _
  exact names.bind fun _ => Except.FailsWithin.ok _

theorem Hosts.toExtensions_failsWithin (hosts : Hosts) :
    Except.FailsWithin IsOfRequest hosts.toExtensions := by
  unfold toExtensions
  split
  · exact Except.FailsWithin.ok _
  · exact ((encode_failsWithin hosts).bind fun _ => Except.FailsWithin.ok _).bind
      fun _ => Except.FailsWithin.ok _

theorem Validity.toPeriod_failsWithin (validity : Validity) :
    Except.FailsWithin IsOfRequest validity.toPeriod :=
  (Except.FailsWithin.orError (by rfl) _).bind fun notBefore =>
    (Except.FailsWithin.orError (by rfl) _).bind fun _ => Except.FailsWithin.ok _

namespace CertificateTemplate

theorem extensions_failsWithin (template : CertificateTemplate) (authorityKeyId : Option Octets) :
    Except.FailsWithin IsOfRequest (template.extensions authorityKeyId) :=
  (extensionIf_failsWithin (Except.FailsWithin.ok _) _ _).bind fun _ =>
    (extensionIf_failsWithin (Except.FailsWithin.ok _) _ _).bind fun _ =>
      (extensionIf_failsWithin (Except.FailsWithin.ok _) _ _).bind fun _ =>
        (extensionIf_failsWithin (Except.FailsWithin.ok _) _ _).bind fun _ =>
          (extensionIf_failsWithin (Except.FailsWithin.ok _) _ _).bind fun _ =>
            template.hosts.toExtensions_failsWithin.bind fun _ => Except.FailsWithin.ok _

theorem toTbs_failsWithin (template : CertificateTemplate) (issuer : X509.Name)
    (algorithm : SignatureAlgorithm) (authorityKeyId : Option Octets) :
    Except.FailsWithin IsOfRequest (template.toTbs issuer algorithm authorityKeyId) :=
  (template.extensions_failsWithin authorityKeyId).bind fun _ =>
    template.validity.toPeriod_failsWithin.bind fun _ => Except.FailsWithin.ok _

end CertificateTemplate

theorem IssuedMaterial.ofParts_failsWithin (certificate : X509.Certificate) (key : Key) :
    Except.FailsWithin IsOfRequest (ofParts certificate key) := by
  unfold ofParts
  split
  · exact Except.FailsWithin.ok _
  · exact Except.FailsWithin.error rfl

/-! ## Signing -/

/-- Whether there is a message that a key pair does not sign. -/
def KeyPair.Refuses (pair : KeyPair) : Prop :=
  ∃ message environment after, pair.sign message environment = .error .signingFailed after

theorem KeyPair.sign_failsWithin (pair : KeyPair) (message : Octets) :
    Operation.FailsWithin (fun error => error = .signingFailed ∧ pair.Refuses)
      (pair.sign message) := by
  have only : Operation.FailsWithin (· = .signingFailed) (pair.sign message) := by
    cases pair with
    | rsa key =>
        rw [sign_rsa]
        exact Operation.FailsWithin.ofOption (by rfl) _
    | ecdsa curve scalar =>
        rw [sign_ecdsa]
        refine Operation.FailsWithin.bind ?_ fun nonce => ?_
        · unfold signatureNonce
          split
          · exact (Operation.FailsWithin.draw _).bind fun _ => Operation.FailsWithin.pure _
          · exact Operation.FailsWithin.ofOption (by rfl) _
        · exact (Operation.FailsWithin.ofOption (by rfl) _).bind fun _ =>
            Operation.FailsWithin.pure _
  intro environment error after failed
  rcases only environment error after failed with rfl
  exact ⟨rfl, message, environment, after, failed⟩

theorem Key.sign_failsWithin (key : Key) (message : Octets) :
    Operation.FailsWithin (fun error => error = .signingFailed ∧ key.pair.Refuses)
      (key.sign message) := by
  rw [sign_eq]
  exact key.pair.sign_failsWithin message

/-- A key of two different primes with room for a digest signs every message. -/
theorem KeyPair.not_refuses_rsa {key : Rsa.PrivateKey} (first : key.firstFactor.Prime)
    (second : key.secondFactor.Prime) (different : key.firstFactor ≠ key.secondFactor)
    (large : longestPadding ≤ key.publicKey.size) : ¬ (rsa key).Refuses := by
  rintro ⟨message, environment, after, failed⟩
  obtain ⟨signature, signed, _⟩ := exists_sign_rsa first second different large message environment
  rw [signed] at failed
  cases failed

/-- Failures that are about what is asked for or are those of a key that does not sign. -/
def IsOfRequestOrKey (pair : KeyPair) (error : Error) : Prop :=
  IsOfRequest error ∨ error = .signingFailed ∧ pair.Refuses

theorem Issuer.issue_failsWithin {issuer : Issuer} {keyId : Option Octets}
    (found : issuer.keyId = .ok keyId) (template : CertificateTemplate) :
    Operation.FailsWithin (IsOfRequestOrKey issuer.key.pair) (issuer.issue template) := by
  rw [issue_eq]
  refine Operation.FailsWithin.bind ?_ fun keyId => ?_
  · rw [found]
    exact Operation.FailsWithin.pure keyId
  · have stated : Except.FailsWithin (IsOfRequestOrKey issuer.key.pair)
        (template.toTbs issuer.name issuer.key.signatureAlgorithm keyId) :=
      (template.toTbs_failsWithin _ _ _).mono fun _ => Or.inl
    apply (Operation.FailsWithin.ofExcept stated).bind
    intro tbs
    apply ((issuer.key.sign_failsWithin _).mono fun _ => Or.inr).bind
    intro signature
    exact (Operation.FailsWithin.report _).bind fun _ => Operation.FailsWithin.pure _

end CertAuthority
