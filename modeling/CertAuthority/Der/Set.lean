import CertAuthority.Der.Element

/-!
# Sets

The members of a set are written in ascending order of their octets, and none
occurs twice.  A `SetOf` holds its members in that order; `SetOf.ofMembers?`
sorts members and refuses those that occur twice.
-/

namespace CertAuthority

namespace Octets

theorem precedes_trans {left middle right : Octets} (first : precedes left middle = true)
    (second : precedes middle right = true) : precedes left right = true := by
  induction left generalizing middle right with
  | nil =>
      cases right with
      | nil => cases middle <;> simp [precedes] at second
      | cons => rfl
  | cons head tail ih =>
      cases middle with
      | nil => simp [precedes] at first
      | cons middleHead middleTail =>
          cases right with
          | nil => simp [precedes] at second
          | cons rightHead rightTail =>
              simp only [precedes, Bool.or_eq_true, decide_eq_true_eq, Bool.and_eq_true,
                beq_iff_eq] at first second ⊢
              rcases first with smaller | ⟨rfl, first⟩
              · rcases second with larger | ⟨rfl, _⟩
                · exact Or.inl (UInt8.lt_trans smaller larger)
                · exact Or.inl smaller
              · rcases second with larger | ⟨rfl, second⟩
                · exact Or.inl larger
                · exact Or.inr ⟨rfl, ih first second⟩

theorem precedes_of_not_precedes {left right : Octets} (not : precedes left right = false)
    (different : left ≠ right) : precedes right left = true := by
  induction left generalizing right with
  | nil =>
      cases right with
      | nil => exact absurd rfl different
      | cons => simp [precedes] at not
  | cons head tail ih =>
      cases right with
      | nil => rfl
      | cons rightHead rightTail =>
          simp only [precedes, Bool.or_eq_false_iff, decide_eq_false_iff_not, Bool.and_eq_false_imp,
            beq_iff_eq] at not
          simp only [precedes, Bool.or_eq_true, decide_eq_true_eq, Bool.and_eq_true, beq_iff_eq]
          rcases UInt8.lt_or_eq_of_le (UInt8.not_lt.mp not.1) with smaller | rfl
          · exact Or.inl smaller
          · exact Or.inr ⟨rfl, ih (not.2 rfl) (fun equal => different (by rw [equal]))⟩

end Octets

namespace Der

variable {α : Type} {octets : α → Octets}

/-- Places a value among sorted ones, in ascending order of their octets, unless it occurs. -/
def insertSorted (octets : α → Octets) (value : α) : List α → Option (List α)
  | [] => some [value]
  | head :: tail =>
      if Octets.precedes (octets value) (octets head) then some (value :: head :: tail)
      else if octets value = octets head then none
      else (insertSorted octets value tail).map (head :: ·)

/-- The members of a set in ascending order of their octets, unless one occurs twice. -/
def sortSet (octets : α → Octets) : List α → Option (List α)
  | [] => some []
  | head :: tail => do
      let sorted ← sortSet octets tail
      insertSorted octets head sorted

/-- Whether members stand in ascending order of their octets, each of them once. -/
def IsAscending (octets : α → Octets) (members : List α) : Prop :=
  members.Pairwise fun left right => Octets.precedes (octets left) (octets right) = true

theorem mem_of_insertSorted {value member : α} {members sorted : List α}
    (inserted : insertSorted octets value members = some sorted) (member_sorted : member ∈ sorted) :
    member = value ∨ member ∈ members := by
  induction members generalizing sorted with
  | nil =>
      obtain rfl : [value] = sorted := by simpa [insertSorted] using inserted
      simpa using member_sorted
  | cons head tail ih =>
      simp only [insertSorted] at inserted
      split at inserted
      · obtain rfl := Option.some.inj inserted
        simpa using member_sorted
      · split at inserted
        · cases inserted
        · obtain ⟨rest, found, rfl⟩ := Option.map_eq_some_iff.mp inserted
          rcases List.mem_cons.mp member_sorted with rfl | later
          · exact Or.inr List.mem_cons_self
          · exact (ih found later).imp id (List.mem_cons_of_mem head)

theorem insertSorted_ascending {value : α} {members sorted : List α}
    (ascending : IsAscending octets members)
    (inserted : insertSorted octets value members = some sorted) : IsAscending octets sorted := by
  induction members generalizing sorted with
  | nil =>
      obtain rfl : [value] = sorted := by simpa [insertSorted] using inserted
      exact List.pairwise_singleton _ _
  | cons head tail ih =>
      obtain ⟨below, tailAscending⟩ := List.pairwise_cons.mp ascending
      simp only [insertSorted] at inserted
      split at inserted
      · rename_i first
        obtain rfl := Option.some.inj inserted
        refine List.pairwise_cons.mpr ⟨fun member found => ?_, ascending⟩
        rcases List.mem_cons.mp found with rfl | later
        · exact first
        · exact Octets.precedes_trans first (below member later)
      · split at inserted
        · cases inserted
        · rename_i notFirst different
          obtain ⟨rest, found, rfl⟩ := Option.map_eq_some_iff.mp inserted
          refine List.pairwise_cons.mpr ⟨fun member memberRest => ?_, ih tailAscending found⟩
          rcases mem_of_insertSorted found memberRest with rfl | old
          · exact Octets.precedes_of_not_precedes (Bool.eq_false_iff.mpr notFirst) different
          · exact below member old

theorem mem_of_sortSet {member : α} {members sorted : List α}
    (sorting : sortSet octets members = some sorted) (member_sorted : member ∈ sorted) :
    member ∈ members := by
  induction members generalizing sorted with
  | nil =>
      obtain rfl : [] = sorted := by simpa [sortSet] using sorting
      exact member_sorted
  | cons head tail ih =>
      obtain ⟨rest, found, inserted⟩ := Option.bind_eq_some_iff.mp sorting
      rcases mem_of_insertSorted inserted member_sorted with rfl | later
      · exact List.mem_cons_self
      · exact List.mem_cons_of_mem head (ih found later)

theorem sortSet_ascending {members sorted : List α}
    (sorting : sortSet octets members = some sorted) : IsAscending octets sorted := by
  induction members generalizing sorted with
  | nil =>
      obtain rfl : [] = sorted := by simpa [sortSet] using sorting
      exact List.Pairwise.nil
  | cons head tail ih =>
      obtain ⟨rest, found, inserted⟩ := Option.bind_eq_some_iff.mp sorting
      exact insertSorted_ascending (ih found) inserted

theorem sortSet_of_ascending {members : List α} (ascending : IsAscending octets members) :
    sortSet octets members = some members := by
  induction members with
  | nil => rfl
  | cons head tail ih =>
      obtain ⟨below, tailAscending⟩ := List.pairwise_cons.mp ascending
      simp only [sortSet, ih tailAscending, Option.bind_eq_bind, Option.bind_some]
      cases tail with
      | nil => rfl
      | cons next rest => simp [insertSorted, below next List.mem_cons_self]

/-- A set, whose members are kept in the order in which they are written. -/
@[ext]
structure SetOf (octets : α → Octets) where
  members : List α
  ascending : IsAscending octets members

deriving instance DecidableEq for SetOf

namespace SetOf

/-- The set of members given in any order, unless one occurs twice. -/
def ofMembers? (octets : α → Octets) (members : List α) : Option (SetOf octets) :=
  match sorting : sortSet octets members with
  | some sorted => some ⟨sorted, sortSet_ascending sorting⟩
  | none => none

theorem ofMembers?_members (set : SetOf octets) : ofMembers? octets set.members = some set := by
  have sorting := sortSet_of_ascending set.ascending
  unfold ofMembers?
  split
  · rename_i sorted found
    obtain rfl := Option.some.inj (sorting.symm.trans found)
    rfl
  · rename_i found
    rw [sorting] at found
    cases found

/-- A set has no members but those that were given. -/
theorem mem_of_ofMembers? {members : List α} {set : SetOf octets}
    (made : ofMembers? octets members = some set) {member : α} (inside : member ∈ set.members) :
    member ∈ members := by
  unfold ofMembers? at made
  split at made
  · rename_i sorted sorting
    rcases Option.some.inj made with rfl
    exact mem_of_sortSet sorting inside
  · cases made

/-- The set with one member. -/
def singleton (member : α) : SetOf octets :=
  ⟨[member], List.pairwise_singleton _ _⟩

end SetOf

end Der

end CertAuthority
