import CertAuthority.Modular
import Mathlib.FieldTheory.Finite.Basic

/-!
# Powers and inverses of residues

Computations with residues are traced to those in `ZMod`.  Everything that goes
through the binary digits of a number, most significant first, is settled by
one induction (`foldl_bits`): reading one more digit doubles the number that
was read so far and adds the digit.
-/

namespace CertAuthority.Modular

/-! ## Binary digits -/

theorem range_succ_reverse_testBit (count value : Nat) :
    (List.range (count + 1)).reverse.map value.testBit =
      (List.range count).reverse.map (value / 2).testBit ++ [value.testBit 0] := by
  rw [List.range_succ_eq_map, List.reverse_cons, List.map_append, ← List.map_reverse,
    List.map_map]
  congr 1
  apply List.map_congr_left
  intro place _
  exact Nat.testBit_succ value place

/-- What holds after reading the lowest digits of a number, most significant first. -/
theorem foldl_testBit {β : Type} (related : Nat → β → Prop) {step : β → Bool → β} {start : β}
    (zero : related 0 start)
    (next : ∀ value state bit, related value state →
      related (2 * value + bit.toNat) (step state bit))
    (count value : Nat) :
    related (value % 2 ^ count)
      (((List.range count).reverse.map value.testBit).foldl step start) := by
  induction count generalizing value with
  | zero => simpa [Nat.mod_one] using zero
  | succ count ih =>
      have digit : value % 2 ^ (count + 1) =
          2 * (value / 2 % 2 ^ count) + (value.testBit 0).toNat := by
        rw [Nat.pow_succ', Nat.mod_mul, Nat.testBit_zero, Nat.add_comm]
        rcases Nat.mod_two_eq_zero_or_one value with even | odd
        · simp [even]
        · simp [odd]
      rw [range_succ_reverse_testBit, List.foldl_append, digit]
      exact next _ _ _ (ih (value / 2))

theorem foldl_bits {β : Type} (related : Nat → β → Prop) {step : β → Bool → β} {start : β}
    (zero : related 0 start)
    (next : ∀ value state bit, related value state →
      related (2 * value + bit.toNat) (step state bit))
    (value : Nat) : related value ((bits value).foldl step start) := by
  have read := foldl_testBit related zero next (value.log2 + 1) value
  rwa [Nat.mod_eq_of_lt Nat.lt_log2_self] at read

/-! ## Powers -/

theorem pow_eq (base exponent modulus : Nat) :
    pow base exponent modulus = base ^ exponent % modulus := by
  refine foldl_bits (fun value power => power = base ^ value % modulus) ?_ ?_ exponent
  · rw [Nat.pow_zero]
  · rintro value power bit rfl
    have square : base ^ value % modulus * (base ^ value % modulus) % modulus =
        base ^ (2 * value) % modulus := by
      rw [← Nat.mul_mod, ← Nat.pow_add, Nat.two_mul]
    cases bit with
    | false => simpa using square
    | true =>
        simp only [square, if_true, Bool.toNat_true]
        rw [Nat.mod_mul_mod, ← Nat.pow_succ]

theorem pow_lt {base exponent modulus : Nat} (positive : 0 < modulus) :
    pow base exponent modulus < modulus := by
  rw [pow_eq]
  exact Nat.mod_lt _ positive

theorem cast_mod_of_dvd {factor modulus : Nat} (divides : factor ∣ modulus) (value : Nat) :
    ((value % modulus : Nat) : ZMod factor) = value := by
  rw [ZMod.natCast_eq_natCast_iff', Nat.mod_mod_of_dvd _ divides]

theorem cast_pow (base exponent modulus : Nat) :
    (pow base exponent modulus : ZMod modulus) = (base : ZMod modulus) ^ exponent := by
  rw [pow_eq, ZMod.natCast_mod, Nat.cast_pow]

theorem cast_sub {modulus left right : Nat} (below : right ≤ modulus) :
    (sub modulus left right : ZMod modulus) = (left : ZMod modulus) - right := by
  rw [sub, ZMod.natCast_mod, Nat.cast_add, Nat.cast_sub below, ZMod.natCast_self]
  ring

theorem sub_lt {modulus left right : Nat} (positive : 0 < modulus) :
    sub modulus left right < modulus :=
  Nat.mod_lt _ positive

/-! ## Inverses -/

/-- The inverse by Fermat's little theorem; that of zero is zero. -/
theorem cast_primeInverse {modulus : Nat} [prime : Fact modulus.Prime] (large : 2 < modulus)
    (value : Nat) : (primeInverse value modulus : ZMod modulus) = (value : ZMod modulus)⁻¹ := by
  rw [primeInverse, cast_pow]
  by_cases zero : (value : ZMod modulus) = 0
  · rw [zero, inv_zero, zero_pow (by omega)]
  · apply eq_inv_of_mul_eq_one_left
    rw [← pow_succ, show modulus - 2 + 1 = modulus - 1 by omega]
    exact ZMod.pow_card_sub_one_eq_one zero

/-- Both remainders of Euclid's algorithm stay multiples of the number, by their multipliers. -/
theorem cast_euclid {value modulus steps : Nat} {older newer : Nat × Int}
    (olderRelated : (older.1 : ZMod modulus) = older.2 * value)
    (newerRelated : (newer.1 : ZMod modulus) = newer.2 * value) :
    ((euclid steps older newer).1 : ZMod modulus) = (euclid steps older newer).2 * value := by
  induction steps generalizing older newer with
  | zero => exact olderRelated
  | succ steps ih =>
      rw [euclid]
      split
      · exact olderRelated
      · apply ih newerRelated
        have division := congrArg (Nat.cast : Nat → ZMod modulus)
          (Nat.div_add_mod older.1 newer.1)
        push_cast at division
        simp only [Int.cast_sub, Int.cast_mul, Int.cast_natCast, sub_mul, ← olderRelated,
          mul_assoc, ← newerRelated]
        rw [← division]
        ring

theorem cast_inverse? {value modulus inverse : Nat}
    (found : inverse? value modulus = some inverse) (positive : 0 < modulus) :
    (inverse : ZMod modulus) * value = 1 := by
  unfold inverse? at found
  simp only at found
  generalize last : euclid (2 * modulus.log2 + 4) (value % modulus, 1) (modulus, 0) = pair at found
  have related : (pair.1 : ZMod modulus) = pair.2 * value := by
    rw [← last]
    exact cast_euclid (by simp) (by simp)
  split at found
  · rename_i one
    rw [one] at related
    rw [← Option.some.inj found, ← Int.cast_natCast, Int.toNat_of_nonneg
      (Int.emod_nonneg _ (by omega)), ZMod.intCast_mod, ← related, Nat.cast_one]
  · cases found

theorem inverse?_lt {value modulus inverse : Nat}
    (found : inverse? value modulus = some inverse) (positive : 0 < modulus) :
    inverse < modulus := by
  unfold inverse? at found
  simp only at found
  split at found
  · rw [← Option.some.inj found, Int.toNat_lt (Int.emod_nonneg _ (by omega))]
    exact Int.emod_lt_of_pos _ (Int.natCast_pos.mpr positive)
  · cases found

end CertAuthority.Modular
