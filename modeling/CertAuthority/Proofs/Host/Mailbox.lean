import CertAuthority.Proofs.Extension.Hosts
import CertAuthority.Proofs.Host.Email
import Mathlib.Logic.Basic

/-!
# The mailboxes that are accepted

Reading a mailbox is the same as looking for an address with a bracket on either
side that may be missing, and then refusing texts that end in a bracket without
having one to begin with, or the other way round.  The address that is found is
the only one.  It has two parts, neither of them empty, and only seven-bit
characters, so that hosts with it can be written whenever those without it can.
-/

namespace CertAuthority

namespace Email

variable {text address : String}

/-- An address has one at sign, with characters on both sides of it. -/
theorem IsAddrSpec.exists_parts {chars : List Char} (isAddress : IsAddrSpec chars) :
    ∃ localPart domain, localPart ≠ [] ∧ '@' ∉ localPart ∧ domain ≠ [] ∧ '@' ∉ domain ∧
      chars = localPart ++ '@' :: domain := by
  rcases isAddress with ⟨localPart, domain, isLocal, isDomain, split⟩
  have noAt : ¬ IsAtext '@' ∧ '@' ≠ '.' := by decide
  exact ⟨localPart, domain, isLocal.ne_nil, isLocal.not_mem noAt.1 noAt.2, isDomain.ne_nil,
    isDomain.not_mem noAt.1 noAt.2, split⟩

theorem IsAddrSpec.isForeign (isAddress : IsAddrSpec address.toList) :
    Text.isForeign address = false := by
  rw [Text.isForeign, List.any_eq_false]
  intro char member
  simpa using isAddress.ascii char member

/-- A text with one of the two brackets is no mailbox. -/
theorem IsMailbox.brackets (isMailbox : IsMailbox text address) :
    '<' ∈ text.toList ↔ '>' ∈ text.toList := by
  rcases isMailbox with ⟨isAddress, rfl | ⟨front, _, _, rfl⟩⟩
  · exact iff_of_false isAddress.not_mem_bracket.1 isAddress.not_mem_bracket.2
  · exact iff_of_true (by simp) (by simp)

/-- From a text is read the address of the mailbox that it is, or of what matches without a single
bracket.  There is only one, of two parts and of seven-bit characters, so that it never keeps hosts
from being written; and nothing is read from a text with only one of the brackets. -/
theorem parse?_accepts (text : String) :
    (∀ address, parse? text = some address ↔ IsMailbox text address) ∧
      (∀ address, parse? text = some address ↔
        IsMatch text address ∧ ('<' ∈ text.toList ↔ text.toList.getLast? = some '>')) ∧
      (∀ first second, IsMailbox text first → IsMailbox text second → first = second) ∧
      (∀ address, parse? text = some address →
        Text.isForeign address = false ∧
          (∃ localPart domain, localPart ≠ [] ∧ '@' ∉ localPart ∧ domain ≠ [] ∧ '@' ∉ domain ∧
            address.toList = localPart ++ '@' :: domain) ∧
          ∀ hosts error, (hosts.add (.email address)).encode = .error error ↔
            Hosts.encode hosts = .error error) ∧
      (Xor ('<' ∈ text.toList) ('>' ∈ text.toList) → parse? text = none) := by
  refine ⟨fun address => parse?_eq_some_iff, fun address => ?matched, fun first second => ?one,
    fun address => ?written, ?single⟩
  case matched => rw [parse?_eq_some_iff, isMailbox_iff_isMatch]
  case one =>
    intro isFirst isSecond
    exact Option.some.inj
      ((parse?_eq_some_iff.mpr isFirst).symm.trans (parse?_eq_some_iff.mpr isSecond))
  case written =>
    intro found
    have isAddress := (parse?_eq_some_iff.mp found).1
    refine ⟨isAddress.isForeign, isAddress.exists_parts, fun hosts error => ?_⟩
    rw [Hosts.encode_eq_error, Hosts.encode_eq_error,
      Hosts.firstForeign?_add_email isAddress.isForeign]
  case single =>
    intro single
    refine Option.eq_none_iff_forall_ne_some.mpr fun address found => ?_
    exact xor_iff_not_iff _ _ |>.mp single (parse?_eq_some_iff.mp found).brackets

/-- A name may have any characters but brackets, and a bracket at the end asks for the other. -/
theorem parse?_accepts_named :
    parse? "Zoë\n\"@,\" <a.b@x.example>" = some "a.b@x.example" ∧ parse? "a.b@x.example>" = none := by
  have isAddress : IsAddrSpec "a.b@x.example".toList := isAddress_iff.mp (by decide)
  have named := (parse?_accepts "Zoë\n\"@,\" <a.b@x.example>").1 "a.b@x.example"
  have single := (parse?_accepts "a.b@x.example>").2.2.2.2
  exact ⟨named.mpr ⟨isAddress, .inr ⟨"Zoë\n\"@,\" ", by decide, by decide, by decide⟩⟩,
    single (.inr ⟨by decide, by decide⟩)⟩

end Email

end CertAuthority
