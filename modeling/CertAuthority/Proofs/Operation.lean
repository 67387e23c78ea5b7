import CertAuthority.Operation

/-!
# Running operations

An operation that is put together of two succeeds if the first does and the
second does after it, and fails if one of them does.  What an operation is made
of is found from its result by these rules; the supply of randomness and the
reports are not looked at where they do not matter.
-/

namespace CertAuthority

variable {α β : Type}

theorem Except.bind_eq_ok {ε : Type} {first : Except ε α} {next : α → Except ε β} {result : β} :
    (first >>= next) = .ok result ↔ ∃ value, first = .ok value ∧ next value = .ok result := by
  cases first with
  | error error =>
      constructor
      · intro contrary
        cases contrary
      · rintro ⟨_, contrary, _⟩
        cases contrary
  | ok value =>
      constructor
      · intro found
        exact ⟨value, rfl, found⟩
      · rintro ⟨_, same, found⟩
        cases same
        exact found

theorem Except.map_bind {ε γ : Type} {first : Except ε α} {next : α → Except ε β} {change : β → γ} :
    (first >>= next).map change = first >>= fun value => (next value).map change := by
  cases first <;> rfl

@[simp]
theorem orError_some_bind {error : Error} {value : α} {next : α → Except Error β} :
    (orError error (some value) >>= next) = next value := rfl

@[simp]
theorem orError_none_bind {error : Error} {next : α → Except Error β} :
    (orError error none >>= next) = .error error := rfl

/-- A property that holds of the value of a computation holds of a value. -/
theorem Except.exists_eq_ok_of_any {ε : Type} {outcome : Except ε α} {property : α → Bool}
    (holds : outcome.toOption.any property = true) :
    ∃ value, outcome = .ok value ∧ property value = true := by
  cases outcome with
  | error error => cases holds
  | ok value => exact ⟨value, rfl, holds⟩

theorem orError_eq_ok {error : Error} {option : Option α} {value : α} :
    orError error option = .ok value ↔ option = some value := by
  cases option with
  | none =>
      constructor <;> intro contrary <;> cases contrary
  | some found =>
      constructor
      · intro same
        exact congrArg some (Except.ok.inj same)
      · intro same
        exact congrArg Except.ok (Option.some.inj same)

/-- Two values that may be missing are put together if both are there. -/
theorem orError_both_eq_ok {γ : Type} {error : Error} {first : Option α} {second : Option β}
    {make : α → β → γ} {result : γ} :
    (do let left ← orError error first
        let right ← orError error second
        return make left right) = Except.ok result ↔
      ∃ left right, first = some left ∧ second = some right ∧ make left right = result := by
  cases first with
  | none =>
      rw [orError_none_bind]
      simp
  | some left =>
      cases second with
      | none =>
          rw [orError_some_bind, orError_none_bind]
          simp
      | some right =>
          rw [orError_some_bind, orError_some_bind]
          simp [pure, Except.pure]

theorem orError_both_eq_error {γ : Type} {error found : Error} {first : Option α}
    {second : Option β} {make : α → β → γ} :
    (do let left ← orError error first
        let right ← orError error second
        return make left right) = Except.error found ↔
      found = error ∧ (first = none ∨ second = none) := by
  cases first with
  | none =>
      rw [orError_none_bind]
      simp [eq_comm]
  | some left =>
      cases second with
      | none =>
          rw [orError_some_bind, orError_none_bind]
          simp [eq_comm]
      | some right =>
          rw [orError_some_bind, orError_some_bind]
          simp [pure, Except.pure]

namespace Operation

variable {environment after : Environment}

/-- A sequence of two operations succeeds if both do, one after the other. -/
theorem bind_eq_ok {first : Operation α} {next : α → Operation β} {result : β} :
    (first >>= next) environment = .ok result after ↔
      ∃ value between, first environment = .ok value between ∧
        next value between = .ok result after := by
  show EStateM.bind first next environment = _ ↔ _
  unfold EStateM.bind
  cases first environment with
  | ok value between =>
      constructor
      · intro found
        exact ⟨value, between, rfl, found⟩
      · rintro ⟨_, _, same, found⟩
        cases same
        exact found
  | error error between =>
      constructor
      · intro contrary
        cases contrary
      · rintro ⟨_, _, contrary, _⟩
        cases contrary

/-- A sequence of two operations fails if the first does, or the second after it. -/
theorem bind_eq_error {first : Operation α} {next : α → Operation β} {error : Error} :
    (first >>= next) environment = .error error after ↔
      first environment = .error error after ∨
        ∃ value between, first environment = .ok value between ∧
          next value between = .error error after := by
  show EStateM.bind first next environment = _ ↔ _
  unfold EStateM.bind
  cases first environment with
  | ok value between =>
      constructor
      · intro found
        exact Or.inr ⟨value, between, rfl, found⟩
      · rintro (contrary | ⟨_, _, same, found⟩)
        · cases contrary
        · cases same
          exact found
  | error found between =>
      constructor
      · intro same
        exact Or.inl (by cases same; rfl)
      · rintro (same | ⟨_, _, contrary, _⟩)
        · cases same
          rfl
        · cases contrary

/-- After a first operation that succeeds, a sequence does what the second does. -/
theorem bind_of_ok {first : Operation α} {next : α → Operation β} {between : Environment}
    {value : α} (done : first environment = .ok value between) :
    (first >>= next) environment = next value between := by
  show EStateM.bind first next environment = _
  rw [EStateM.bind, done]

theorem pure_eq_ok {value result : α} :
    (pure value : Operation α) environment = .ok result after ↔
      value = result ∧ environment = after := by
  constructor
  · intro same
    cases same
    exact ⟨rfl, rfl⟩
  · rintro ⟨rfl, rfl⟩
    rfl

theorem pure_ne_error {value : α} {error : Error} :
    (pure value : Operation α) environment ≠ .error error after := nofun

theorem ofExcept_eq_ok {outcome : Except Error α} {value : α} :
    ofExcept outcome environment = .ok value after ↔ outcome = .ok value ∧ environment = after := by
  cases outcome with
  | ok found =>
      rw [ofExcept, pure_eq_ok]
      constructor
      · rintro ⟨rfl, same⟩
        exact ⟨rfl, same⟩
      · rintro ⟨same, rfl⟩
        exact ⟨Except.ok.inj same, rfl⟩
  | error error =>
      constructor
      · intro contrary
        cases contrary
      · rintro ⟨contrary, _⟩
        cases contrary

theorem ofExcept_eq_error {outcome : Except Error α} {error : Error} :
    ofExcept outcome environment = .error error after ↔
      outcome = .error error ∧ environment = after := by
  cases outcome with
  | ok found =>
      constructor
      · intro contrary
        cases contrary
      · rintro ⟨contrary, _⟩
        cases contrary
  | error found =>
      constructor
      · intro same
        cases same
        exact ⟨rfl, rfl⟩
      · rintro ⟨same, rfl⟩
        cases same
        rfl

/-- A computation that needs no environment comes before an operation in the same one. -/
theorem ofExcept_bind_eq_ok {outcome : Except Error α} {next : α → Operation β} {result : β} :
    (ofExcept outcome >>= next) environment = .ok result after ↔
      ∃ value, outcome = .ok value ∧ next value environment = .ok result after := by
  rw [bind_eq_ok]
  constructor
  · rintro ⟨value, _, done, found⟩
    rcases ofExcept_eq_ok.mp done with ⟨computed, rfl⟩
    exact ⟨value, computed, found⟩
  · rintro ⟨value, computed, found⟩
    exact ⟨value, environment, ofExcept_eq_ok.mpr ⟨computed, rfl⟩, found⟩

theorem ofExcept_bind_eq_error {outcome : Except Error α} {next : α → Operation β}
    {error : Error} :
    (ofExcept outcome >>= next) environment = .error error after ↔
      outcome = .error error ∧ environment = after ∨
        ∃ value, outcome = .ok value ∧ next value environment = .error error after := by
  rw [bind_eq_error, ofExcept_eq_error]
  refine or_congr_right ?_
  constructor
  · rintro ⟨value, _, done, failed⟩
    rcases ofExcept_eq_ok.mp done with ⟨computed, rfl⟩
    exact ⟨value, computed, failed⟩
  · rintro ⟨value, computed, failed⟩
    exact ⟨value, environment, ofExcept_eq_ok.mpr ⟨computed, rfl⟩, failed⟩

theorem ofOption_eq_ok {error : Error} {option : Option α} {value : α} :
    ofOption error option environment = .ok value after ↔
      option = some value ∧ environment = after := by
  cases option with
  | none =>
      constructor
      · intro contrary
        cases contrary
      · rintro ⟨contrary, _⟩
        cases contrary
  | some found =>
      rw [ofOption, pure_eq_ok]
      constructor
      · rintro ⟨rfl, same⟩
        exact ⟨rfl, same⟩
      · rintro ⟨same, rfl⟩
        exact ⟨Option.some.inj same, rfl⟩

/-- Reports never fail. -/
theorem report_ne_error {event : Event} {error : Error} :
    report event environment ≠ .error error after := nofun

/-- Randomness never fails. -/
theorem draw_ne_error {count : Nat} {error : Error} :
    draw count environment ≠ .error error after := nofun

end Operation

/-! ## Failures of a kind -/

/-- A computation fails with errors of a kind only. -/
def Except.FailsWithin (allowed : Error → Prop) (outcome : Except Error α) : Prop :=
  ∀ error, outcome = .error error → allowed error

namespace Except.FailsWithin

variable {allowed : Error → Prop}

theorem ok (value : α) : FailsWithin allowed (.ok value) := nofun

theorem error {error : Error} (holds : allowed error) :
    FailsWithin allowed (.error error : Except Error α) := by
  intro found same
  cases same
  exact holds

theorem orError {error : Error} (holds : allowed error) (option : Option α) :
    FailsWithin allowed (orError error option) := by
  cases option with
  | none => exact FailsWithin.error holds
  | some value => exact ok value

theorem bind {first : Except Error α} {next : α → Except Error β}
    (firstWithin : FailsWithin allowed first)
    (nextWithin : ∀ value, FailsWithin allowed (next value)) :
    FailsWithin allowed (first >>= next) := by
  cases first with
  | error error => exact FailsWithin.error (firstWithin error rfl)
  | ok value => exact nextWithin value

theorem mapM {items : List α} {action : α → Except Error β}
    (within : ∀ item, FailsWithin allowed (action item)) :
    FailsWithin allowed (items.mapM action) := by
  induction items with
  | nil => exact ok []
  | cons head tail ih =>
      rw [List.mapM_cons]
      exact (within head).bind fun first => ih.bind fun others => ok (first :: others)

theorem mono {wider : Error → Prop} {outcome : Except Error α}
    (within : FailsWithin allowed outcome) (weaker : ∀ error, allowed error → wider error) :
    FailsWithin wider outcome :=
  fun error failed => weaker error (within error failed)

end Except.FailsWithin

namespace Operation

/-- An operation fails with errors of a kind only. -/
def FailsWithin (allowed : Error → Prop) (operation : Operation α) : Prop :=
  ∀ environment error after, operation environment = .error error after → allowed error

namespace FailsWithin

variable {allowed : Error → Prop}

theorem pure (value : α) : FailsWithin allowed (pure value) :=
  fun _ _ _ contrary => absurd contrary pure_ne_error

theorem throw {error : Error} (holds : allowed error) :
    FailsWithin allowed (throw error : Operation α) := by
  intro environment found after same
  cases same
  exact holds

theorem draw (count : Nat) : FailsWithin allowed (draw count) :=
  fun _ _ _ contrary => absurd contrary draw_ne_error

theorem report (event : Event) : FailsWithin allowed (report event) :=
  fun _ _ _ contrary => absurd contrary report_ne_error

theorem ofExcept {outcome : Except Error α} (within : Except.FailsWithin allowed outcome) :
    FailsWithin allowed (ofExcept outcome) :=
  fun _ error _ failed => within error (ofExcept_eq_error.mp failed).1

theorem ofOption {error : Error} (holds : allowed error) (option : Option α) :
    FailsWithin allowed (ofOption error option) := by
  cases option with
  | none => exact throw holds
  | some value => exact pure value

/-- Only the values that the first operation gives matter for the second. -/
theorem bind_of_ok {first : Operation α} {next : α → Operation β}
    (firstWithin : FailsWithin allowed first)
    (nextWithin : ∀ environment value between, first environment = .ok value between →
      FailsWithin allowed (next value)) : FailsWithin allowed (first >>= next) := by
  intro environment error after failed
  rcases bind_eq_error.mp failed with failed | ⟨value, between, found, failed⟩
  · exact firstWithin environment error after failed
  · exact nextWithin environment value between found between error after failed

theorem bind {first : Operation α} {next : α → Operation β}
    (firstWithin : FailsWithin allowed first)
    (nextWithin : ∀ value, FailsWithin allowed (next value)) :
    FailsWithin allowed (first >>= next) :=
  firstWithin.bind_of_ok fun _ value _ _ => nextWithin value

theorem forM {items : List α} {action : α → Operation PUnit}
    (within : ∀ item, FailsWithin allowed (action item)) :
    FailsWithin allowed (items.forM action) := by
  induction items with
  | nil => exact pure _
  | cons head tail ih => exact (within head).bind fun _ => ih

theorem mono {wider : Error → Prop} {operation : Operation α}
    (within : FailsWithin allowed operation) (weaker : ∀ error, allowed error → wider error) :
    FailsWithin wider operation :=
  fun environment error after failed => weaker error (within environment error after failed)

end FailsWithin

end Operation

/-! ## Reports of a kind -/

/-- The surroundings after further events. -/
def Environment.reporting (environment : Environment) (events : List Event) : Environment :=
  { environment with events := environment.events ++ events }

@[simp]
theorem Environment.reporting_nil (environment : Environment) :
    environment.reporting [] = environment := by
  rw [reporting, List.append_nil]

@[simp]
theorem Environment.reporting_reporting (environment : Environment) (first second : List Event) :
    (environment.reporting first).reporting second = environment.reporting (first ++ second) := by
  simp only [reporting, List.append_assoc]

/-- Events are only added to those before, and all that are added are of a kind. -/
def Environment.Adds (allowed : Event → Prop) (before after : Environment) : Prop :=
  ∃ added, after.events = before.events ++ added ∧ ∀ event ∈ added, allowed event

namespace Environment.Adds

variable {allowed : Event → Prop} {first second third : Environment}

theorem refl (environment : Environment) : Adds allowed environment environment :=
  ⟨[], (List.append_nil _).symm, List.forall_mem_nil _⟩

theorem trans (one : Adds allowed first second) (two : Adds allowed second third) :
    Adds allowed first third := by
  rcases one with ⟨added, events, each⟩
  rcases two with ⟨others, otherEvents, eachOther⟩
  refine ⟨added ++ others, ?_, List.forall_mem_append.mpr ⟨each, eachOther⟩⟩
  rw [otherEvents, events, List.append_assoc]

end Environment.Adds

namespace Operation

/-- The surroundings that an operation leaves, whether it succeeds or fails. -/
def after (operation : Operation α) (environment : Environment) : Environment :=
  match operation environment with
  | .ok _ final => final
  | .error _ final => final

theorem after_of_ok {operation : Operation α} {environment final : Environment} {value : α}
    (done : operation environment = .ok value final) : operation.after environment = final := by
  rw [after, done]

theorem after_of_error {operation : Operation α} {environment final : Environment} {error : Error}
    (failed : operation environment = .error error final) :
    operation.after environment = final := by
  rw [after, failed]

theorem after_bind {first : Operation α} {next : α → Operation β}
    {environment between : Environment} {value : α}
    (done : first environment = .ok value between) :
    (first >>= next).after environment = (next value).after between := by
  rw [after, bind_of_ok done, after]

/-- An operation reports events of a kind only. -/
def ReportsWithin (allowed : Event → Prop) (operation : Operation α) : Prop :=
  ∀ environment : Environment, environment.Adds allowed (operation.after environment)

namespace ReportsWithin

variable {allowed : Event → Prop}

theorem pure (value : α) : ReportsWithin allowed (pure value) :=
  fun environment => .refl environment

theorem throw (error : Error) : ReportsWithin allowed (throw error : Operation α) :=
  fun environment => .refl environment

theorem draw (count : Nat) : ReportsWithin allowed (draw count) :=
  fun environment => .refl environment

theorem report {event : Event} (holds : allowed event) : ReportsWithin allowed (report event) :=
  fun _ => ⟨[event], rfl, by simpa using holds⟩

theorem ofExcept (outcome : Except Error α) : ReportsWithin allowed (ofExcept outcome) := by
  cases outcome with
  | ok value => exact pure value
  | error error => exact throw error

theorem ofOption (error : Error) (option : Option α) :
    ReportsWithin allowed (ofOption error option) := by
  cases option with
  | none => exact throw error
  | some value => exact pure value

theorem bind {first : Operation α} {next : α → Operation β}
    (firstWithin : ReportsWithin allowed first)
    (nextWithin : ∀ value, ReportsWithin allowed (next value)) :
    ReportsWithin allowed (first >>= next) := by
  intro environment
  have begun := firstWithin environment
  cases outcome : first environment with
  | error error final =>
      rw [after_of_error (bind_eq_error.mpr (.inl outcome))]
      rwa [after_of_error outcome] at begun
  | ok value between =>
      rw [after_of_ok outcome] at begun
      rw [after_bind outcome]
      exact begun.trans (nextWithin value between)

theorem forM {items : List α} {action : α → Operation PUnit}
    (within : ∀ item, ReportsWithin allowed (action item)) :
    ReportsWithin allowed (items.forM action) := by
  induction items with
  | nil => exact pure _
  | cons head tail ih => exact (within head).bind fun _ => ih

end ReportsWithin

end Operation

end CertAuthority
