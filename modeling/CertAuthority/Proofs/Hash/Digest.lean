import CertAuthority.Hash.Hmac

/-!
# Lengths of digests

Every digest has as many octets as its algorithm states, whatever the message.
-/

namespace CertAuthority.Hash

theorem Sha256.State.length_toOctets (state : Sha256.State) : state.toOctets.length = 32 := rfl

theorem Sha512.State.length_toOctets (state : Sha512.State) : state.toOctets.length = 64 := rfl

@[simp]
theorem Algorithm.length_digest (algorithm : Algorithm) (message : Octets) :
    (algorithm.digest message).length = algorithm.size := by
  cases algorithm with
  | sha224 => rw [digest, Sha256.sha224, List.length_take, Sha256.State.length_toOctets]; rfl
  | sha256 => exact Sha256.State.length_toOctets _
  | sha384 => rw [digest, Sha512.sha384, List.length_take, Sha512.State.length_toOctets]; rfl
  | sha512 => exact Sha512.State.length_toOctets _

end CertAuthority.Hash
