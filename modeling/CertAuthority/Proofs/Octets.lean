import CertAuthority.Octets
import Mathlib.Tactic.Ring

/-!
# Numbers as octets

Reading and writing numbers in base 256 are inverse to each other: `toNat`
undoes `ofNatPadded` up to the digits that fit and undoes `ofNat` altogether,
and a list of octets is the padded form of its number.
-/

namespace CertAuthority.Octets

/-- A property of all octets, checked one by one. -/
theorem forall_octet (property : UInt8 → Prop)
    (every : ∀ number < 256, property (UInt8.ofNat number)) (octet : UInt8) : property octet := by
  have found := every octet.toNat octet.toNat_lt
  rwa [UInt8.ofNat_toNat] at found

@[simp]
theorem toNat_nil : toNat [] = 0 := rfl

private theorem foldl_digits (octets : Octets) (start : Nat) :
    octets.foldl (fun value octet => value * 256 + octet.toNat) start =
      start * 256 ^ octets.length + toNat octets := by
  induction octets generalizing start with
  | nil => simp
  | cons head tail ih =>
      have step := ih (start * 256 + head.toNat)
      have first := ih (0 * 256 + head.toNat)
      simp only [toNat, List.foldl_cons, List.length_cons] at step first ⊢
      rw [step, first]
      ring

theorem toNat_append (left right : Octets) :
    toNat (left ++ right) = toNat left * 256 ^ right.length + toNat right := by
  rw [toNat, List.foldl_append]
  exact foldl_digits right _

theorem toNat_cons (head : UInt8) (tail : Octets) :
    toNat (head :: tail) = head.toNat * 256 ^ tail.length + toNat tail := by
  have split := toNat_append [head] tail
  simpa [toNat] using split

theorem toNat_lt (octets : Octets) : toNat octets < 256 ^ octets.length := by
  induction octets with
  | nil => simp
  | cons head tail ih =>
      rw [toNat_cons, List.length_cons, Nat.pow_succ]
      have small : head.toNat + 1 ≤ 256 := head.toNat_lt
      calc
        head.toNat * 256 ^ tail.length + toNat tail
            < (head.toNat + 1) * 256 ^ tail.length := by rw [Nat.add_mul]; omega
        _ ≤ 256 ^ tail.length * 256 := by rw [Nat.mul_comm]; exact Nat.mul_le_mul_left _ small

@[simp]
theorem length_ofNatPadded (width value : Nat) : (ofNatPadded width value).length = width := by
  induction width with
  | zero => rfl
  | succ width ih => simp [ofNatPadded, ih]

theorem toNat_ofNatPadded (width value : Nat) :
    toNat (ofNatPadded width value) = value % 256 ^ width := by
  induction width with
  | zero => simp [ofNatPadded, Nat.mod_one]
  | succ width ih =>
      have power : 2 ^ (8 * width) = 256 ^ width := by rw [Nat.pow_mul]
      simp only [ofNatPadded, toNat_cons, length_ofNatPadded, ih, UInt8.toNat_ofNat',
        Nat.shiftRight_eq_div_pow, power]
      conv_rhs => rw [Nat.pow_succ, Nat.mod_mul]
      ring

theorem toNat_ofNatPadded_of_lt {width value : Nat} (fits : value < 256 ^ width) :
    toNat (ofNatPadded width value) = value := by
  rw [toNat_ofNatPadded, Nat.mod_eq_of_lt fits]

theorem eq_of_toNat_eq {left right : Octets} (length : left.length = right.length)
    (value : toNat left = toNat right) : left = right := by
  induction left generalizing right with
  | nil => exact (List.length_eq_zero_iff.mp length.symm).symm
  | cons head tail ih =>
      cases right with
      | nil => cases length
      | cons rightHead rightTail =>
          have tailLength : tail.length = rightTail.length := Nat.succ.inj length
          have leftBound := toNat_lt tail
          have rightBound := toNat_lt rightTail
          rw [toNat_cons, toNat_cons, tailLength] at value
          rw [tailLength] at leftBound
          have positive : 0 < 256 ^ rightTail.length := Nat.pow_pos (by decide)
          have heads : head.toNat = rightHead.toNat := by
            have leftHead := congrArg (· / 256 ^ rightTail.length) value
            simpa [Nat.mul_comm _ (256 ^ rightTail.length), Nat.mul_add_div positive,
              Nat.div_eq_of_lt leftBound, Nat.div_eq_of_lt rightBound] using leftHead
          have tails : toNat tail = toNat rightTail := by
            rw [heads] at value
            exact Nat.add_left_cancel value
          rw [UInt8.toNat_inj.mp heads, ih tailLength tails]

/-- Octets are the padded form of their number. -/
theorem ofNatPadded_toNat (octets : Octets) :
    ofNatPadded octets.length (toNat octets) = octets :=
  eq_of_toNat_eq (length_ofNatPadded _ _) (toNat_ofNatPadded_of_lt (toNat_lt octets))

theorem lt_pow_byteLength (value : Nat) : value < 256 ^ byteLength value := by
  unfold byteLength
  split
  · rename_i zero
    simp [zero]
  · calc
      value < 2 ^ (value.log2 + 1) := Nat.lt_log2_self
      _ ≤ 2 ^ (8 * (value.log2 / 8 + 1)) := Nat.pow_le_pow_right (by decide) (by omega)
      _ = 256 ^ (value.log2 / 8 + 1) := by rw [Nat.pow_mul]

theorem pow_byteLength_le {value : Nat} (positive : value ≠ 0) :
    256 ^ (byteLength value - 1) ≤ value := by
  calc
    256 ^ (byteLength value - 1) = 2 ^ (8 * (value.log2 / 8)) := by
      rw [byteLength, if_neg positive, Nat.add_sub_cancel, Nat.pow_mul]
    _ ≤ 2 ^ value.log2 := Nat.pow_le_pow_right (by decide) (by omega)
    _ ≤ value := Nat.log2_self_le positive

@[simp]
theorem length_ofNat (value : Nat) : (ofNat value).length = byteLength value :=
  length_ofNatPadded _ _

@[simp]
theorem toNat_ofNat (value : Nat) : toNat (ofNat value) = value :=
  toNat_ofNatPadded_of_lt (lt_pow_byteLength value)

theorem byteLength_le {value width : Nat} (fits : value < 256 ^ width) :
    byteLength value ≤ width := by
  rcases Nat.eq_zero_or_pos value with rfl | positive
  · simp [byteLength]
  · have low := pow_byteLength_le (Nat.pos_iff_ne_zero.mp positive)
    have below := (Nat.pow_lt_pow_iff_right (by decide : 1 < 256)).mp (Nat.lt_of_le_of_lt low fits)
    omega

/-- The shortest form of a number does not begin with a zero. -/
theorem head_ofNat_ne_zero {value : Nat} {head : UInt8} {tail : Octets}
    (written : ofNat value = head :: tail) : head ≠ 0 := by
  rintro rfl
  have length : byteLength value = tail.length + 1 := by
    rw [← length_ofNat, written, List.length_cons]
  have number : value = toNat tail := by
    rw [← toNat_ofNat value, written, toNat_cons]
    simp
  have positive : value ≠ 0 := by
    rintro rfl
    simp [byteLength] at length
  have low := pow_byteLength_le positive
  rw [length, Nat.add_sub_cancel, number] at low
  exact absurd (toNat_lt tail) (Nat.not_lt.mpr low)

end CertAuthority.Octets
