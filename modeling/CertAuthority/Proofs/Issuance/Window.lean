import CertAuthority.Proofs.Issuance.Lifetime

/-!
# The window around a clock reading

A period is computed from a clock reading by going back one span and forth
another.  Both of its ends are exact to the nanosecond and are seen from the
same clock (`Validity.Surrounds`).  Nothing keeps it from being computed but a
clock that cannot show one of the ends, because the year there is before -9999
or after 9999.

The life of a template is given in unsigned seconds and nanoseconds.  None
stands for ten years of 365 days, and more seconds than fit a signed word are
refused before any instant is computed (`CertificateTemplate.build_surrounds`).
-/

namespace CertAuthority

/-! ## Years on a clock -/

/-- The year on a clock that is ahead of universal time by an offset. -/
def yearOnClock (nanoseconds offset : Int) : Int :=
  (Date.ofDayNumber ((nanoseconds + offset * nanosecondsPerSecond) / nanosecondsPerDay)).year

/-- The year on the clock is one of those from -9999 to 9999. -/
def IsOnCalendar (nanoseconds offset : Int) : Prop :=
  -9999 ≤ yearOnClock nanoseconds offset ∧ yearOnClock nanoseconds offset ≤ 9999

instance (nanoseconds offset : Int) : Decidable (IsOnCalendar nanoseconds offset) :=
  inferInstanceAs (Decidable (_ ∧ _))

/-- A clock shows the nanoseconds of these years and no others. -/
theorem isLocalTime_iff_isOnCalendar {nanoseconds offset : Int} :
    isLocalTime (nanoseconds + offset * nanosecondsPerSecond) = true ↔
      IsOnCalendar nanoseconds offset := by
  have first : -9999 ≤ yearOnClock nanoseconds offset ↔ nanosecondsAt ⟨-9999, 1, 1⟩ 0 0 0 ≤
      nanoseconds + offset * nanosecondsPerSecond := by
    rw [← not_lt, ← not_lt]
    exact not_congr year_lt_iff
  have last : yearOnClock nanoseconds offset ≤ 9999 ↔
      nanoseconds + offset * nanosecondsPerSecond < nanosecondsAt ⟨10000, 1, 1⟩ 0 0 0 :=
    Int.lt_add_one_iff.symm.trans year_lt_iff
  rw [isLocalTime_iff, IsOnCalendar, first, last]

theorem Instant.ofNanoseconds?_eq_none_iff {nanoseconds offset : Int} :
    ofNanoseconds? nanoseconds offset = none ↔ ¬ IsOnCalendar nanoseconds offset := by
  rw [ofNanoseconds?, ← isLocalTime_iff_isOnCalendar]
  split
  · rename_i shown
    exact iff_of_false (Option.some_ne_none _) (not_not_intro shown)
  · rename_i hidden
    exact iff_of_true rfl hidden

/-! ## Periods -/

namespace Validity

/-- A period begins one span before a clock reading and ends another after it, on that clock. -/
structure Surrounds (validity : Validity) (now : Instant) (before after : Duration) : Prop where
  start : validity.notBefore.nanoseconds = now.nanoseconds - before.nanoseconds
  startClock : validity.notBefore.offset = now.offset
  stop : validity.notAfter.nanoseconds = now.nanoseconds + after.nanoseconds
  stopClock : validity.notAfter.offset = now.offset

/-- The clock of a reading shows both ends of the period around it. -/
def IsReachable (now : Instant) (before after : Duration) : Prop :=
  IsOnCalendar (now.nanoseconds - before.nanoseconds) now.offset ∧
    IsOnCalendar (now.nanoseconds + after.nanoseconds) now.offset

instance (now : Instant) (before after : Duration) : Decidable (IsReachable now before after) :=
  inferInstanceAs (Decidable (_ ∧ _))

variable {now : Instant} {skew expiration : Duration} {validity : Validity}

theorem startingAt_eq_ok_iff :
    startingAt now skew expiration = .ok validity ↔ validity.Surrounds now skew expiration := by
  rw [startingAt_eq_ok, Instant.sub?_eq_some_iff, Instant.add?_eq_some_iff]
  constructor
  · rintro ⟨⟨start, startClock⟩, stop, stopClock⟩
    exact ⟨start, startClock, stop, stopClock⟩
  · intro surrounds
    exact ⟨⟨surrounds.start, surrounds.startClock⟩, surrounds.stop, surrounds.stopClock⟩

theorem startingAt_eq_error_iff {error : Error} :
    startingAt now skew expiration = .error error ↔
      error = .expirationOutOfRange expiration ∧ ¬ IsReachable now skew expiration := by
  rw [startingAt_eq_error, Instant.sub?, Instant.add?, Instant.ofNanoseconds?_eq_none_iff,
    Instant.ofNanoseconds?_eq_none_iff, IsReachable, not_and_or]

end Validity

/-! ## Lives in seconds and nanoseconds -/

namespace CertificateTemplate

/-- The life of a certificate in seconds and a fraction, ten years of 365 days for none. -/
def lifeOf (seconds : UInt64) (fraction : Fin nanosecondsPerSecond) : Duration :=
  if seconds = 0 ∧ fraction.val = 0 then Duration.ofSeconds 315360000
  else Duration.ofSeconds seconds.toNat fraction

theorem resolveLifetime_ofSeconds (seconds : UInt64) (fraction : Fin nanosecondsPerSecond) :
    resolveLifetime (Duration.ofSeconds seconds.toNat fraction) = lifeOf seconds fraction := by
  have none : (Duration.ofSeconds seconds.toNat fraction).nanoseconds = 0 ↔
      seconds = 0 ∧ fraction.val = 0 := by
    rw [← UInt64.toNat_inj, UInt64.toNat_zero]
    simp only [Duration.ofSeconds, nanosecondsPerSecond]
    omega
  rw [resolveLifetime, lifeOf, if_congr none rfl rfl]
  rfl

/-- A life fits a signed word exactly if its seconds do; the fraction adds none. -/
theorem fitsWord_lifeOf (seconds : UInt64) (fraction : Fin nanosecondsPerSecond) :
    (lifeOf seconds fraction).fitsWord = true ↔ seconds.toNat < 2 ^ 63 := by
  have below := fraction.isLt
  simp only [nanosecondsPerSecond] at below
  rw [lifeOf]
  split
  · rename_i none
    rw [none.1]
    decide
  · have nonneg : 0 ≤ (Duration.ofSeconds seconds.toNat fraction).nanoseconds := by
      simp only [Duration.ofSeconds, nanosecondsPerSecond]
      omega
    rw [Duration.fitsWord_iff nonneg]
    simp only [Duration.ofSeconds, Duration.secondsLimit, nanosecondsPerSecond]
    omega

section Life

variable {now : Instant} {seconds : UInt64} {fraction : Fin nanosecondsPerSecond}

theorem validityFrom_lifeOf :
    validityFrom now (Duration.ofSeconds seconds.toNat fraction) =
      if seconds.toNat < 2 ^ 63 then
        Validity.startingAt now (Duration.ofSeconds 300) (lifeOf seconds fraction)
      else .error (.expirationOutOfRange (lifeOf seconds fraction)) := by
  simp only [validityFrom, resolveLifetime_ofSeconds, fitsWord_lifeOf]
  rfl

/-- The window of a life can be computed: its seconds fit a signed word, and the clock shows the
instants five minutes before the reading and a life after it. -/
def HasWindow (now : Instant) (seconds : UInt64) (fraction : Fin nanosecondsPerSecond) : Prop :=
  seconds.toNat < 2 ^ 63 ∧
    Validity.IsReachable now (Duration.ofSeconds 300) (lifeOf seconds fraction)

instance : Decidable (HasWindow now seconds fraction) :=
  inferInstanceAs (Decidable (_ ∧ _))

theorem surrounds_of_validityFrom {validity : Validity}
    (accepted : validityFrom now (Duration.ofSeconds seconds.toNat fraction) = .ok validity) :
    validity.Surrounds now (Duration.ofSeconds 300) (lifeOf seconds fraction) := by
  rw [validityFrom_lifeOf] at accepted
  split at accepted
  · exact Validity.startingAt_eq_ok_iff.mp accepted
  · cases accepted

theorem validityFrom_eq_error_iff {error : Error} :
    validityFrom now (Duration.ofSeconds seconds.toNat fraction) = .error error ↔
      error = .expirationOutOfRange (lifeOf seconds fraction) ∧
        ¬ HasWindow now seconds fraction := by
  rw [validityFrom_lifeOf, HasWindow]
  split
  · rename_i fits
    rw [Validity.startingAt_eq_error_iff, not_and, imp_iff_right fits]
  · rename_i long
    rw [Except.error.injEq, and_iff_left fun window => long window.1]
    exact eq_comm

end Life

/-! ## Templates -/

/-- A period around a clock reading, for spans of either sign and any size, is exactly the one from
the first span before it to the second after it, unless the clock cannot show one of these instants.
The window of a template is the one from five minutes before the clock reading to the end of its
life.  Once a word is known that the template is for, it is refused for nothing but its window. -/
theorem build_surrounds (now : Instant) (skew expiration : Duration) (seconds : UInt64)
    (fraction : Fin nanosecondsPerSecond) (request : CertificateRequest) (key : Key)
    (usages : List String) (isCa : Bool) (environment : Environment) :
    ((∀ validity, Validity.startingAt now skew expiration = .ok validity ↔
          validity.Surrounds now skew expiration) ∧
        ∀ error, Validity.startingAt now skew expiration = .error error ↔
          error = .expirationOutOfRange expiration ∧
            ¬ Validity.IsReachable now skew expiration) ∧
      (∀ template after,
        build request key (Duration.ofSeconds seconds.toNat fraction) usages isCa now environment =
            .ok template after →
          template.validity.Surrounds now (Duration.ofSeconds 300) (lifeOf seconds fraction)) ∧
        ∀ error after,
          build request key (Duration.ofSeconds seconds.toNat fraction) usages isCa now
                environment = .error error after ↔
            after = environment.reporting (Usage.unknownEvents usages) ∧
              if (Usage.ofNames usages).isEmpty then error = .noUsage
              else error = .expirationOutOfRange (lifeOf seconds fraction) ∧
                ¬ HasWindow now seconds fraction := by
  refine ⟨⟨fun _ => Validity.startingAt_eq_ok_iff, fun _ => Validity.startingAt_eq_error_iff⟩,
    fun template after built => ?_, fun error after => ?_⟩
  · exact surrounds_of_validityFrom (build_eq_ok built).validity
  · by_cases unknown : (Usage.ofNames usages).isEmpty = true
    · rw [build_of_unknown unknown, if_pos unknown, EStateM.Result.error.injEq, and_comm]
      exact and_congr eq_comm eq_comm
    · rw [build_of_known unknown, if_neg unknown, buildWith_eq_error, validityFrom_eq_error_iff,
        and_comm]
      exact and_congr_left' eq_comm

/-- Half a second. -/
def half : Fin nanosecondsPerSecond := ⟨500000000, by decide⟩

/-- A second but for a nanosecond. -/
def almostOne : Fin nanosecondsPerSecond := ⟨999999999, by decide⟩

/-- A template that is asked for ten seconds before the end of 9999, with a given life. -/
def buildLast (seconds : UInt64) (fraction : Fin nanosecondsPerSecond) :
    EStateM.Result Error Environment CertificateTemplate :=
  build hostlessRequest (Key.ofPair (.rsa Rsa.usualKey) [])
    (Duration.ofSeconds seconds.toNat fraction) ["server auth"] false lastNow exampleEnvironment

/-- Ten seconds before the end of 9999, a life of nine and a half seconds still has a window, and
the longest life that can be asked for has none. -/
theorem build_surrounds_lastNow :
    (∃ template after, buildLast 9 half = .ok template after ∧
        template.validity.notBefore.nanoseconds = 253402300490000000000 ∧
          template.validity.notAfter.nanoseconds = 253402300799500000000) ∧
      buildLast 18446744073709551615 almostOne =
        .error (.expirationOutOfRange ⟨18446744073709551615999999999⟩) exampleEnvironment := by
  have reported : exampleEnvironment =
      exampleEnvironment.reporting (Usage.unknownEvents ["server auth"]) := by
    rw [show Usage.unknownEvents ["server auth"] = [] by decide, Environment.reporting_nil]
  have known : ¬ (Usage.ofNames ["server auth"]).isEmpty = true := by decide
  constructor
  · rcases build_surrounds lastNow clockSkew defaultLifetime 9 half hostlessRequest
      (Key.ofPair (.rsa Rsa.usualKey) []) ["server auth"] false exampleEnvironment with
      ⟨-, surrounds, refused⟩
    cases built : buildLast 9 half with
    | ok template after =>
        have window := surrounds template after built
        exact ⟨template, after, rfl, window.start, window.stop⟩
    | error error after =>
        have failed := ((refused error after).mp built).2
        rw [if_neg known] at failed
        exact absurd (by decide +kernel) failed.2
  · rcases build_surrounds lastNow clockSkew defaultLifetime 18446744073709551615 almostOne
      hostlessRequest (Key.ofPair (.rsa Rsa.usualKey) []) ["server auth"] false exampleEnvironment
      with ⟨-, -, refused⟩
    refine (refused _ _).mpr ⟨reported, ?_⟩
    rw [if_neg known]
    exact ⟨rfl, by decide +kernel⟩

end CertificateTemplate

end CertAuthority
