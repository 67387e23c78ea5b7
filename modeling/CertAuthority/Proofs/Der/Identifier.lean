import CertAuthority.Proofs.Der.Exact
import Mathlib.Data.Nat.Digits.Lemmas

/-!
# Identifiers by their arcs

An object identifier is a sequence of arcs, of any number and size
(`Identifier`).  Its octets are runs of digits to the base 128, one for the
first two arcs and one for each later arc.

`Oid` does not hold all of them.  Those that it holds (`Identifier.IsHeldBy`)
are read from their octets and have their arcs in the dotted text; they are the
ones that are neither short nor long, with a second arc below 40 and later arcs
of 28 bits, or of 32 if the last digit is low (`Identifier.exists_isHeldBy_iff`).
-/

namespace CertAuthority.Der

/-! ## Runs of digits -/

/-- The octet of a digit that others follow. -/
def leadingOctet (digit : Nat) : UInt8 :=
  UInt8.ofNat (128 + digit)

/-- The octets of an arc: its digits to the base 128, of which all but the last have the high bit
set. -/
def arcRun (arc : Nat) : Octets :=
  (Nat.digits 128 (arc / 128)).reverse.map leadingOctet ++ [UInt8.ofNat (arc % 128)]

theorem toNat_leadingOctet {digit : Nat} (small : digit < 128) :
    (leadingOctet digit).toNat = 128 + digit := by
  rw [leadingOctet, UInt8.toNat_ofNat']
  omega

theorem arcRun_of_lt {arc : Nat} (small : arc < 128) : arcRun arc = [UInt8.ofNat arc] := by
  rw [arcRun, Nat.div_eq_of_lt small, Nat.digits_zero, Nat.mod_eq_of_lt small]
  rfl

theorem arcRuns_append {leading : Octets} {last : UInt8}
    (more : ∀ octet ∈ leading, ¬ octet < 0x80) (final : last < 0x80) (rest : Octets) :
    arcRuns (leading ++ last :: rest) = (arcRuns rest).map ((leading ++ [last]) :: ·) := by
  induction leading with
  | nil =>
      rw [List.nil_append, arcRuns]
      cases arcRuns rest <;> simp [final]
  | cons octet leading ih =>
      have set := more octet List.mem_cons_self
      have others := ih fun octet member => more octet (List.mem_cons_of_mem _ member)
      rw [List.cons_append, arcRuns, others]
      cases arcRuns rest <;> simp [set]

/-- The runs of several arcs are told apart. -/
theorem arcRuns_flatMap (arcs : List Nat) :
    arcRuns (arcs.flatMap arcRun) = some (arcs.map arcRun) := by
  induction arcs with
  | nil => rfl
  | cons arc arcs ih =>
      have more : ∀ octet ∈ (Nat.digits 128 (arc / 128)).reverse.map leadingOctet,
          ¬ octet < 0x80 := by
        intro octet member
        rcases List.mem_map.mp member with ⟨digit, inside, rfl⟩
        have small := Nat.digits_lt_base (by decide) (List.mem_reverse.mp inside)
        rw [UInt8.lt_iff_toNat_lt, toNat_leadingOctet small]
        exact Nat.not_lt.mpr (Nat.le_add_right _ _)
      have final : UInt8.ofNat (arc % 128) < 0x80 := by
        rw [UInt8.lt_iff_toNat_lt, UInt8.toNat_ofNat', Nat.mod_eq_of_lt (by omega)]
        exact Nat.mod_lt arc (by decide)
      rw [List.flatMap_cons, List.map_cons, arcRun, List.append_assoc, List.singleton_append,
        arcRuns_append more final, ih]
      rfl

namespace Oid

theorem arcValue_append (run : Octets) (last : UInt8) :
    arcValue (run ++ [last]) = (arcValue run * 128 + last.toNat % 128) % 0x100000000 :=
  List.foldl_append

theorem arcValue_leading {digits : List Nat} (small : ∀ digit ∈ digits, digit < 128) :
    arcValue (digits.reverse.map leadingOctet) = Nat.ofDigits 128 digits % 0x100000000 := by
  induction digits with
  | nil => rfl
  | cons digit digits ih =>
      have octet := toNat_leadingOctet (small digit List.mem_cons_self)
      have rest := ih fun digit member => small digit (List.mem_cons_of_mem _ member)
      have below := small digit List.mem_cons_self
      rw [List.reverse_cons, List.map_append, List.map_singleton, arcValue_append, rest, octet,
        Nat.ofDigits_cons]
      omega

/-- An arc is found in its run, but for what is more than 32 bits. -/
theorem arcValue_arcRun (arc : Nat) : arcValue (arcRun arc) = arc % 0x100000000 := by
  have leading := arcValue_leading fun digit member =>
    Nat.digits_lt_base (b := 128) (m := arc / 128) (by decide) member
  rw [arcRun, arcValue_append, leading, Nat.ofDigits_digits, UInt8.toNat_ofNat']
  omega

end Oid

/-! ## Identifiers -/

/-- An object identifier by its arcs.  The first is below three, and the second below forty unless
the first is two. -/
structure Identifier where
  first : Nat
  second : Nat
  later : List Nat
  first_le : first ≤ 2
  second_lt : first < 2 → second < 40
deriving DecidableEq

namespace Identifier

/-- The arcs in their order. -/
def arcs (identifier : Identifier) : List Nat :=
  identifier.first :: identifier.second :: identifier.later

/-- The arcs in decimal, joined by dots. -/
def toString (identifier : Identifier) : String :=
  ".".intercalate (identifier.arcs.map Nat.repr)

/-- The runs of the arcs, of which the first two are one number. -/
def content (identifier : Identifier) : Octets :=
  ((identifier.first * 40 + identifier.second) :: identifier.later).flatMap arcRun

/-- The identifier as octets. -/
def encode (identifier : Identifier) : Octets :=
  Der.encode Tag.objectIdentifier identifier.content

/-- Identifiers in a sequence. -/
def encodeList (identifiers : List Identifier) : Octets :=
  Der.encode Tag.sequence (identifiers.flatMap encode)

theorem eq_of_arcs_eq {identifier other : Identifier} (same : identifier.arcs = other.arcs) :
    identifier = other := by
  cases identifier
  cases other
  simp only [arcs, List.cons.injEq] at same
  rcases same with ⟨rfl, rfl, rfl⟩
  rfl

/-- That an identifier is held by one that can be read, with the same octets and the same arcs. -/
structure IsHeldBy (identifier : Identifier) (oid : Oid) : Prop where
  readable : oid.isReadable = true
  content : oid.content = identifier.content
  arcs : oid.arcs = identifier.arcs

namespace IsHeldBy

variable {identifier other : Identifier} {oid : Oid}

theorem encode_eq (held : identifier.IsHeldBy oid) : oid.encode = identifier.encode :=
  congrArg (Der.encode Tag.objectIdentifier) held.content

theorem toString_eq (held : identifier.IsHeldBy oid) : oid.toString = identifier.toString := by
  rw [Oid.toString, held.arcs, Identifier.toString]

theorem eq_of_held (held : identifier.IsHeldBy oid) (too : other.IsHeldBy oid) :
    identifier = other :=
  eq_of_arcs_eq (held.arcs.symm.trans too.arcs)

theorem oid_unique {second : Oid} (held : identifier.IsHeldBy oid)
    (too : identifier.IsHeldBy second) : oid = second := by
  have same := held.content.trans too.content.symm
  cases oid
  cases second
  cases same
  rfl

end IsHeldBy

/-- Whether an identifier can be read and told by its text. -/
structure IsSupported (identifier : Identifier) : Prop where
  second : identifier.second < 40
  later : ∀ arc ∈ identifier.later, arc < 2 ^ 28 ∨ arc < 2 ^ 32 ∧ arc % 128 < 16
  long : 3 ≤ identifier.content.length
  short : identifier.content.length ≤ 39

instance (identifier : Identifier) : Decidable identifier.IsSupported :=
  decidable_of_iff
    (identifier.second < 40 ∧
      (∀ arc ∈ identifier.later, arc < 2 ^ 28 ∨ arc < 2 ^ 32 ∧ arc % 128 < 16) ∧
      3 ≤ identifier.content.length ∧ identifier.content.length ≤ 39)
    ⟨fun ⟨second, later, long, short⟩ => ⟨second, later, long, short⟩,
      fun ⟨second, later, long, short⟩ => ⟨second, later, long, short⟩⟩

/-! ## Identifiers that are held -/

/-- The run of an arc of 32 bits is short enough if there are 28, or if its last digit is low. -/
theorem isArcRun_arcRun_iff {arc : Nat} (few : arc < 2 ^ 32) :
    isArcRun (arcRun arc) = true ↔ arc < 2 ^ 28 ∨ arc % 128 < 16 := by
  have length : ((Nat.digits 128 (arc / 128)).reverse.map leadingOctet).length =
      (Nat.digits 128 (arc / 128)).length := by
    rw [List.length_map, List.length_reverse]
  -- Of 32 bits, 28 make four digits, so that only larger arcs have a fifth octet to be looked at.
  rcases Nat.lt_or_ge arc (2 ^ 28) with small | large
  · have three : (Nat.digits 128 (arc / 128)).length ≤ 3 :=
      (Nat.digits_length_le_iff (by decide) _).mpr (by omega)
    refine iff_of_true ?_ (Or.inl small)
    rw [isArcRun, arcRun, List.length_append, length, List.length_singleton,
      List.drop_eq_nil_of_le (by rw [List.length_append, length, List.length_singleton]; omega),
      List.all_nil, Bool.and_true, decide_eq_true_eq]
    omega
  · have atMost : (Nat.digits 128 (arc / 128)).length ≤ 4 :=
      (Nat.digits_length_le_iff (by decide) _).mpr (by omega)
    have atLeast : 3 < (Nat.digits 128 (arc / 128)).length :=
      (Nat.lt_digits_length_iff (by decide) _).mpr (by omega)
    have four : (Nat.digits 128 (arc / 128)).length = 4 := by omega
    have low : UInt8.ofNat (arc % 128) < 0x10 ↔ arc % 128 < 16 := by
      rw [UInt8.lt_iff_toNat_lt, UInt8.toNat_ofNat']
      exact show arc % 128 % 256 < 16 ↔ arc % 128 < 16 by omega
    rw [or_iff_right (Nat.not_lt.mpr large), ← low, isArcRun, arcRun, List.length_append, length,
      four, List.drop_left' (length.trans four)]
    simp

theorem content_eq {identifier : Identifier} (second : identifier.second < 40) :
    identifier.content = UInt8.ofNat (identifier.first * 40 + identifier.second) ::
      identifier.later.flatMap arcRun := by
  have first := identifier.first_le
  rw [content, List.flatMap_cons, arcRun_of_lt (by omega), List.singleton_append]

theorem toNat_firstOctet {identifier : Identifier} (second : identifier.second < 40) :
    (UInt8.ofNat (identifier.first * 40 + identifier.second)).toNat =
      identifier.first * 40 + identifier.second := by
  have first := identifier.first_le
  rw [UInt8.toNat_ofNat']
  omega

namespace IsSupported

variable {identifier : Identifier}

theorem isOidContent (supported : identifier.IsSupported) :
    isOidContent identifier.content = true := by
  have first := identifier.first_le
  have second := supported.second
  have long := supported.long
  have short := supported.short
  have small : UInt8.ofNat (identifier.first * 40 + identifier.second) < 120 := by
    rw [UInt8.lt_iff_toNat_lt, toNat_firstOctet second]
    exact show _ < 120 by omega
  have runs : (identifier.later.map arcRun).all isArcRun = true := by
    simp only [List.all_map, List.all_eq_true]
    intro arc member
    have bounds := supported.later arc member
    exact (isArcRun_arcRun_iff (by omega)).mpr (by omega)
  rw [content_eq second, List.length_cons] at long short
  rw [content_eq second]
  simp only [Der.isOidContent, arcRuns_flatMap, small, runs, Bool.and_eq_true, decide_eq_true_eq]
  exact ⟨⟨⟨trivial, by omega⟩, by omega⟩, trivial⟩

theorem map_arcValue (supported : identifier.IsSupported) :
    (identifier.later.map arcRun).map Oid.arcValue = identifier.later := by
  rw [List.map_map]
  refine (List.map_congr_left fun arc member => ?_).trans (List.map_id _)
  have bounds := supported.later arc member
  rw [Function.comp_apply, Oid.arcValue_arcRun, id_eq]
  omega

theorem exists_oid (supported : identifier.IsSupported) :
    ∃ oid : Oid, identifier.IsHeldBy oid := by
  have second := supported.second
  refine ⟨⟨identifier.content, supported.isOidContent⟩, decide_eq_true supported.long, rfl, ?_⟩
  simp only [Oid.arcs, content_eq second, arcRuns_flatMap, Option.getD_some,
    supported.map_arcValue, toNat_firstOctet second, arcs]
  congr 1
  · omega
  · congr 1
    omega

end IsSupported

theorem IsHeldBy.isSupported {identifier : Identifier} {oid : Oid}
    (held : identifier.IsHeldBy oid) : identifier.IsSupported := by
  rcases held with ⟨readable, content, arcs⟩
  rcases oid with ⟨_ | ⟨first, rest⟩, wellFormed⟩
  · cases wellFormed
  simp only [Oid.arcs, Identifier.arcs, List.cons.injEq] at arcs
  rcases arcs with ⟨_, second, later⟩
  have low : identifier.second < 40 := by omega
  have shape := content.trans (content_eq low)
  rw [List.cons.injEq] at shape
  rcases shape with ⟨_, rfl⟩
  simp only [isOidContent, arcRuns_flatMap, Bool.and_eq_true, decide_eq_true_eq] at wellFormed
  rcases wellFormed with ⟨⟨⟨_, _⟩, short⟩, runs⟩
  rw [arcRuns_flatMap, Option.getD_some, List.map_map] at later
  refine ⟨low, fun arc member => ?_, ?_, ?_⟩
  · have few : arc < 2 ^ 32 := by
      have value : (Oid.arcValue ∘ arcRun) arc = arc :=
        List.map_inj_left.mp (later.trans (List.map_id _).symm) arc member
      rw [Function.comp_apply, Oid.arcValue_arcRun] at value
      omega
    have run := List.all_eq_true.mp runs _ (List.mem_map_of_mem member)
    exact ((isArcRun_arcRun_iff few).mp run).imp_right fun last => ⟨few, last⟩
  · rw [← content]
    exact of_decide_eq_true readable
  · rw [← content, List.length_cons]
    omega

/-- The supported identifiers are the ones that are held. -/
theorem exists_isHeldBy_iff {identifier : Identifier} :
    (∃ oid, identifier.IsHeldBy oid) ↔ identifier.IsSupported :=
  ⟨fun ⟨_, held⟩ => held.isSupported, IsSupported.exists_oid⟩

/-! ## Lists -/

section
variable {named : List Identifier} {found : List Oid}

theorem readable_of_held (held : List.Forall₂ IsHeldBy named found) :
    ∀ oid ∈ found, oid.isReadable = true := by
  induction held with
  | nil => exact nofun
  | cons first _ ih => exact List.forall_mem_cons.mpr ⟨first.readable, ih⟩

theorem flatMap_encode_of_held (held : List.Forall₂ IsHeldBy named found) :
    named.flatMap encode = found.flatMap Oid.encode := by
  induction held with
  | nil => rfl
  | cons first _ ih => rw [List.flatMap_cons, List.flatMap_cons, first.encode_eq, ih]

/-- Identifiers in a sequence are read as the ones that hold them. -/
theorem reads_encodeList (held : List.Forall₂ IsHeldBy named found) :
    Reads (decodeList Tag.sequence Oid.decode) (encodeList named) found := by
  rw [encodeList, flatMap_encode_of_held held]
  exact reads_list (fun oid member => reads_oid (readable_of_held held oid member))
    (fun _ _ => encode_ne_nil _ _)

end

end Identifier

end CertAuthority.Der
