import CertAuthority.Proofs.Operation
import CertAuthority.Usage
import Mathlib.Logic.Basic

/-!
# Looking words up

Each word that stands for nothing is reported, in the order of the words.  Words
are refused exactly if none of them stands for anything (`Usage.resolve_eq`).

What words stand for together is put together of what each stands for
(`Usage.combine`), so that two lists of words, one after the other, stand for
what the two stand for.  A use is a member of the set exactly if one of the
words is in the table for it; the purposes are those of the words in their
order.
-/

namespace CertAuthority

/-! ## Sets of uses -/

namespace KeyUsage

theorem contains_empty (use : KeyUse) : empty.contains use = false := by
  rw [contains, empty, BitVec.getLsbD_zero]

theorem contains_singleton (member use : KeyUse) :
    (singleton member).contains use = true ↔ use = member := by
  cases member <;> cases use <;> decide

theorem contains_union (left right : KeyUsage) (use : KeyUse) :
    (left.union right).contains use = true ↔
      left.contains use = true ∨ right.contains use = true := by
  rw [contains, union, BitVec.getLsbD_or, Bool.or_eq_true]
  rfl

theorem exists_position {place : Nat} (inRange : place < 9) :
    ∃ use : KeyUse, use.position = place := by
  have every : ∀ place < 9, ∃ use ∈ KeyUse.all, use.position = place := by decide
  rcases every place inRange with ⟨use, -, found⟩
  exact ⟨use, found⟩

/-- Sets are equal if they have the same members. -/
theorem eq_of_contains {left right : KeyUsage}
    (same : ∀ use, left.contains use = true ↔ right.contains use = true) : left = right := by
  have flags : left.flags = right.flags := by
    refine BitVec.eq_of_getLsbD_eq fun place inRange => ?_
    rcases exists_position inRange with ⟨use, rfl⟩
    exact Bool.eq_iff_iff.mpr (same use)
  rw [← mk.injEq] at flags
  exact flags

theorem isEmpty_iff {usage : KeyUsage} :
    usage.isEmpty = true ↔ ∀ use, ¬ usage.contains use = true := by
  have emptiness : usage.isEmpty = true ↔ usage = empty := by
    rw [isEmpty, beq_iff_eq, ← mk.injEq]
    rfl
  rw [emptiness]
  constructor
  · rintro rfl use
    rw [contains_empty]
    exact Bool.false_ne_true
  · intro none
    refine eq_of_contains fun use => iff_of_false (none use) ?_
    rw [contains_empty]
    exact Bool.false_ne_true

theorem union_assoc (first second third : KeyUsage) :
    (first.union second).union third = first.union (second.union third) :=
  congrArg mk (BitVec.or_assoc _ _ _)

theorem union_empty (usage : KeyUsage) : usage.union empty = usage :=
  congrArg mk BitVec.or_zero

theorem empty_union (usage : KeyUsage) : empty.union usage = usage :=
  congrArg mk BitVec.zero_or

end KeyUsage

namespace Usage

/-! ## The tables of words -/

/-- In a table of different words, a word is looked up as what stands beside it. -/
theorem lookup_eq_some_iff_mem {α : Type} {table : List (String × α)}
    (distinct : (table.map Prod.fst).Nodup) {name : String} {value : α} :
    table.lookup name = some value ↔ (name, value) ∈ table := by
  constructor
  · intro found
    rcases List.lookup_eq_some_iff.mp found with ⟨before, later, rfl, -⟩
    exact List.mem_append_right _ List.mem_cons_self
  · intro member
    rcases List.append_of_mem member with ⟨before, later, rfl⟩
    rw [List.map_append, List.map_cons, List.nodup_append] at distinct
    refine List.lookup_eq_some_iff.mpr ⟨before, later, rfl, fun pair inBefore => ?_⟩
    refine bne_iff_ne.mpr fun same => ?_
    exact distinct.2.2 pair.1 (List.mem_map_of_mem inBefore) name List.mem_cons_self same.symm

theorem lookup_eq_none_iff_not_mem {α : Type} {table : List (String × α)} {name : String} :
    table.lookup name = Option.none ↔ name ∉ table.map Prod.fst := by
  rw [List.lookup_eq_none_iff, List.mem_map]
  constructor
  · rintro absent ⟨pair, member, rfl⟩
    exact absurd rfl (bne_iff_ne.mp (absent pair member))
  · intro absent pair member
    exact bne_iff_ne.mpr fun same => absent ⟨pair, member, same.symm⟩

/-- A word is in neither table. -/
def IsUnknown (name : String) : Prop :=
  name ∉ useNames.map Prod.fst ∧ name ∉ purposeNames.map Prod.fst

instance (name : String) : Decidable (IsUnknown name) :=
  inferInstanceAs (Decidable (_ ∧ _))

theorem meaning_eq_use {name : String} {use : KeyUse} :
    meaning name = .use use ↔ (name, use) ∈ useNames := by
  rw [← lookup_eq_some_iff_mem (by decide), meaning]
  cases useNames.lookup name with
  | some found => simp
  | none => cases purposeNames.lookup name <;> simp

/-- No word is in both tables, so that the order in which they are looked at does not matter. -/
theorem lookup_useNames_of_purpose {name : String} {purpose : Purpose}
    (member : (name, purpose) ∈ purposeNames) : useNames.lookup name = Option.none := by
  have apart : ∀ pair ∈ purposeNames, useNames.lookup pair.1 = Option.none := by decide
  exact apart _ member

theorem meaning_eq_purpose {name : String} {purpose : Purpose} :
    meaning name = .purpose purpose ↔ purposeNames.lookup name = some purpose := by
  constructor
  · intro found
    rw [meaning] at found
    cases uses : useNames.lookup name with
    | some use =>
        rw [uses] at found
        cases found
    | none =>
        rw [uses] at found
        cases purposes : purposeNames.lookup name with
        | some other =>
            rw [purposes] at found
            rw [Meaning.purpose.inj found]
        | none =>
            rw [purposes] at found
            cases found
  · intro found
    have unused := lookup_useNames_of_purpose ((lookup_eq_some_iff_mem (by decide)).mp found)
    simp only [meaning, unused, found]

theorem meaning_eq_unknown {name : String} : meaning name = .unknown ↔ IsUnknown name := by
  rw [IsUnknown, ← lookup_eq_none_iff_not_mem, ← lookup_eq_none_iff_not_mem, meaning]
  cases useNames.lookup name with
  | some use => simp
  | none => cases purposeNames.lookup name <;> simp

/-! ## Words one after the other -/

/-- What two lists of words stand for together. -/
def combine (first second : Usage) : Usage :=
  ⟨first.keyUsage.union second.keyUsage, first.purposes ++ second.purposes⟩

theorem combine_none (usage : Usage) : usage.combine none = usage := by
  rw [combine, none, KeyUsage.union_empty, List.append_nil]

theorem none_combine (usage : Usage) : none.combine usage = usage := by
  rw [combine, none, KeyUsage.empty_union, List.nil_append]

theorem combine_assoc (first second third : Usage) :
    (first.combine second).combine third = first.combine (second.combine third) := by
  simp only [combine, KeyUsage.union_assoc, List.append_assoc]

/-- What a single word stands for. -/
def ofMeaning : Meaning → Usage
  | .use use => ⟨KeyUsage.singleton use, []⟩
  | .purpose purpose => ⟨KeyUsage.empty, [purpose]⟩
  | .unknown => none

theorem add_eq_combine (usage : Usage) (name : String) :
    usage.add name = usage.combine (ofMeaning (meaning name)) := by
  rw [add]
  cases meaning name with
  | use use => simp only [ofMeaning, combine, List.append_nil]
  | purpose purpose => simp only [ofMeaning, combine, KeyUsage.union_empty]
  | unknown => exact usage.combine_none.symm

/-- What was found before stays, and the words add what they stand for. -/
theorem foldl_add (usage : Usage) (names : List String) :
    names.foldl add usage = usage.combine (ofNames names) := by
  rw [ofNames]
  induction names generalizing usage with
  | nil => exact usage.combine_none.symm
  | cons name names ih =>
      rw [List.foldl_cons, List.foldl_cons, ih (usage.add name), ih (none.add name),
        add_eq_combine, add_eq_combine, none_combine, combine_assoc]

theorem ofNames_cons (name : String) (names : List String) :
    ofNames (name :: names) = (ofMeaning (meaning name)).combine (ofNames names) := by
  rw [ofNames, List.foldl_cons, foldl_add, add_eq_combine, none_combine]

theorem ofNames_append (names others : List String) :
    ofNames (names ++ others) = (ofNames names).combine (ofNames others) := by
  rw [ofNames, List.foldl_append, ← ofNames, foldl_add]

/-! ## Uses and purposes -/

theorem contains_ofMeaning {name : String} {use : KeyUse} :
    (ofMeaning (meaning name)).keyUsage.contains use = true ↔ (name, use) ∈ useNames := by
  rw [← meaning_eq_use]
  cases meaning name with
  | use found =>
      rw [ofMeaning, KeyUsage.contains_singleton, Meaning.use.injEq]
      exact eq_comm
  | purpose purpose => simp [ofMeaning, KeyUsage.contains_empty]
  | unknown => simp [ofMeaning, none, KeyUsage.contains_empty]

theorem purposes_ofMeaning (name : String) :
    (ofMeaning (meaning name)).purposes = (purposeNames.lookup name).toList := by
  cases found : purposeNames.lookup name with
  | some purpose =>
      rw [meaning_eq_purpose.mpr found]
      rfl
  | none =>
      cases meant : meaning name with
      | use use => rfl
      | purpose purpose =>
          rw [meaning_eq_purpose.mp meant] at found
          cases found
      | unknown => rfl

/-- A use is a member exactly if one of the words stands for it. -/
theorem contains_ofNames {names : List String} {use : KeyUse} :
    (ofNames names).keyUsage.contains use = true ↔ ∃ name ∈ names, (name, use) ∈ useNames := by
  induction names with
  | nil =>
      have empty : (ofNames []).keyUsage.contains use = false := KeyUsage.contains_empty use
      simp [empty]
  | cons name names ih =>
      rw [ofNames_cons, combine, KeyUsage.contains_union, contains_ofMeaning, ih]
      simp only [List.mem_cons, or_and_right, exists_or, exists_eq_left]

/-- The purposes are those of the words, in their order and as often as they are named. -/
theorem purposes_ofNames (names : List String) :
    (ofNames names).purposes = names.filterMap fun name => purposeNames.lookup name := by
  induction names with
  | nil => rfl
  | cons name names ih =>
      rw [ofNames_cons, combine, purposes_ofMeaning, ih, List.filterMap_cons]
      cases purposeNames.lookup name <;> rfl

/-- Only which words there are matters for the uses. -/
theorem keyUsage_ofNames_congr {names others : List String}
    (same : ∀ name, name ∈ names ↔ name ∈ others) :
    (ofNames names).keyUsage = (ofNames others).keyUsage := by
  refine KeyUsage.eq_of_contains fun use => ?_
  simp only [contains_ofNames, same]

theorem isEmpty_keyUsage_ofNames {names : List String} :
    (ofNames names).keyUsage.isEmpty = false ↔
      ∃ name ∈ names, name ∈ useNames.map Prod.fst := by
  rw [← Bool.not_eq_true, KeyUsage.isEmpty_iff]
  simp only [contains_ofNames, not_forall, not_not, List.mem_map]
  constructor
  · rintro ⟨use, name, member, listed⟩
    exact ⟨name, member, _, listed, rfl⟩
  · rintro ⟨name, member, ⟨_, use⟩, listed, rfl⟩
    exact ⟨use, _, member, listed⟩

theorem isEmpty_purposes_ofNames {names : List String} :
    (ofNames names).purposes.isEmpty = false ↔
      ∃ name ∈ names, name ∈ purposeNames.map Prod.fst := by
  rw [purposes_ofNames, ← Bool.not_eq_true, List.isEmpty_iff, List.filterMap_eq_nil_iff]
  simp only [lookup_eq_none_iff_not_mem, not_forall, not_not, exists_prop]

/-- Nothing is found exactly if no word is known. -/
theorem isEmpty_ofNames {names : List String} :
    (ofNames names).isEmpty = true ↔ ∀ name ∈ names, IsUnknown name := by
  rw [isEmpty, Bool.and_eq_true, ← Bool.not_eq_false, ← Bool.not_eq_false,
    isEmpty_keyUsage_ofNames, isEmpty_purposes_ofNames]
  simp only [IsUnknown, not_exists, not_and]
  exact ⟨fun unknown name member => ⟨unknown.1 name member, unknown.2 name member⟩,
    fun unknown => ⟨fun name member => (unknown name member).1,
      fun name member => (unknown name member).2⟩⟩

/-! ## Reports -/

/-- The reports of the words that stand for nothing. -/
def unknownEvents (names : List String) : List Event :=
  (unknownNames names).map .unknownUsage

theorem unknownEvents_eq (names : List String) :
    unknownEvents names = (names.filter fun name => IsUnknown name).map .unknownUsage := by
  simp only [unknownEvents, unknownNames, meaning_eq_unknown]

theorem unknownEvents_append (names others : List String) :
    unknownEvents (names ++ others) = unknownEvents names ++ unknownEvents others := by
  rw [unknownEvents, unknownNames, List.filter_append, List.map_append]
  rfl

theorem report_each (names : List String) (environment : Environment) :
    (names.forM fun name => Operation.report (.unknownUsage name)) environment =
      .ok () (environment.reporting (names.map .unknownUsage)) := by
  induction names generalizing environment with
  | nil =>
      rw [List.map_nil, Environment.reporting_nil]
      rfl
  | cons name names ih =>
      have others := ih (environment.reporting [.unknownUsage name])
      rw [Environment.reporting_reporting, List.singleton_append] at others
      exact Operation.bind_eq_ok.mpr ⟨(), _, rfl, others⟩

theorem lookup_eq (names : List String) (environment : Environment) :
    lookup names environment =
      .ok (ofNames names) (environment.reporting (unknownEvents names)) :=
  Operation.bind_eq_ok.mpr ⟨(), _, report_each _ _, rfl⟩

/-- Words are looked up, and then refused if none of them stands for anything. -/
theorem resolve_eq (names : List String) (environment : Environment) :
    resolve names environment =
      if (ofNames names).isEmpty then
        .error .noUsage (environment.reporting (unknownEvents names))
      else .ok (ofNames names) (environment.reporting (unknownEvents names)) := by
  rw [resolve, Operation.bind_of_ok (lookup_eq names environment)]
  cases (ofNames names).isEmpty <;> rfl

theorem resolve_of_known {names : List String} (known : unknownNames names = [])
    (wanted : (ofNames names).isEmpty = false) (environment : Environment) :
    resolve names environment = .ok (ofNames names) environment := by
  rw [resolve_eq, wanted, unknownEvents, known, List.map_nil, Environment.reporting_nil]
  rfl

/-- Words are accepted exactly if one of them is known. -/
theorem resolve_eq_ok_iff {names : List String} {environment after : Environment} {usage : Usage} :
    resolve names environment = .ok usage after ↔
      (usage = ofNames names ∧ after = environment.reporting (unknownEvents names)) ∧
        ∃ name ∈ names, ¬ IsUnknown name := by
  have known : ¬ (ofNames names).isEmpty = true ↔ ∃ name ∈ names, ¬ IsUnknown name := by
    rw [isEmpty_ofNames, not_forall]
    simp only [Classical.not_imp]
  rw [resolve_eq, ← known]
  split
  · rename_i empty
    exact iff_of_false nofun fun both => both.2 empty
  · rename_i found
    rw [EStateM.Result.ok.injEq, and_iff_left found]
    exact and_congr eq_comm eq_comm

theorem resolve_eq_ok {names : List String} {environment after : Environment} {usage : Usage}
    (resolved : resolve names environment = .ok usage after) : usage = ofNames names :=
  (resolve_eq_ok_iff.mp resolved).1.1

theorem resolve_eq_error_iff {names : List String} {environment after : Environment}
    {error : Error} :
    resolve names environment = .error error after ↔
      (error = .noUsage ∧ after = environment.reporting (unknownEvents names)) ∧
        ∀ name ∈ names, IsUnknown name := by
  rw [resolve_eq, ← isEmpty_ofNames]
  split
  · rename_i empty
    rw [EStateM.Result.error.injEq, and_iff_left empty]
    exact and_congr eq_comm eq_comm
  · rename_i found
    exact iff_of_false nofun fun both => found both.2

end Usage

end CertAuthority
