import CertAuthority.Proofs.Issuance.FirstFailure

/-!
# Lives that are asked for

The period of a template begins five minutes before the clock and ends when the
life that is asked for is over.  A life is refused, as an invalid input, if the
local clock cannot show one of these instants.

The local clock shows every fraction of the last second of 9999, but only its
start can be written.  On a clock that shows universal time, the lives that end
in between are therefore the only ones that are accepted when a template is
built and refused when it is issued (`CertificateTemplate.build_and_toPeriod`).
-/

namespace CertAuthority

theorem Duration.fitsWord_iff {duration : Duration} (positive : 0 ≤ duration.nanoseconds) :
    duration.fitsWord = true ↔ duration.nanoseconds < secondsLimit * nanosecondsPerSecond := by
  have seconds : duration.nanoseconds.tdiv nanosecondsPerSecond < secondsLimit ↔
      duration.nanoseconds < secondsLimit * nanosecondsPerSecond := by
    rw [Int.tdiv_eq_ediv_of_nonneg positive, Int.ediv_lt_iff_lt_mul (by decide)]
  have lower : -secondsLimit ≤ duration.nanoseconds.tdiv nanosecondsPerSecond :=
    (show -secondsLimit ≤ 0 by decide).trans (Int.tdiv_nonneg positive (by decide))
  rw [fitsWord, decide_eq_true_eq, seconds]
  exact and_iff_right lower

/-! ## Instants that are computed -/

theorem isLocalTime_iff {nanoseconds : Int} :
    isLocalTime nanoseconds = true ↔
      nanosecondsAt ⟨-9999, 1, 1⟩ 0 0 0 ≤ nanoseconds ∧
        nanoseconds < nanosecondsAt ⟨10000, 1, 1⟩ 0 0 0 := by
  have first : firstLocalDay * nanosecondsPerDay = nanosecondsAt ⟨-9999, 1, 1⟩ 0 0 0 := by decide
  have stop : endLocalDay * nanosecondsPerDay = nanosecondsAt ⟨10000, 1, 1⟩ 0 0 0 := by decide
  rw [isLocalTime, Bool.and_eq_true, decide_eq_true_eq, decide_eq_true_eq, first, stop]

namespace Instant

variable {instant result : Instant} {duration : Duration}

theorem ofNanoseconds?_eq_some_iff {nanoseconds offset : Int} :
    ofNanoseconds? nanoseconds offset = some result ↔
      result.nanoseconds = nanoseconds ∧ result.offset = offset := by
  rw [ofNanoseconds?, Option.dite_none_right_eq_some]
  constructor
  · rintro ⟨shown, same⟩
    rcases Option.some.inj same with rfl
    exact ⟨rfl, rfl⟩
  · rintro ⟨rfl, rfl⟩
    exact ⟨result.shown, rfl⟩

theorem add?_eq_some_iff :
    instant.add? duration = some result ↔
      result.nanoseconds = instant.nanoseconds + duration.nanoseconds ∧
        result.offset = instant.offset :=
  ofNanoseconds?_eq_some_iff

theorem sub?_eq_some_iff :
    instant.sub? duration = some result ↔
      result.nanoseconds = instant.nanoseconds - duration.nanoseconds ∧
        result.offset = instant.offset :=
  ofNanoseconds?_eq_some_iff

end Instant

/-! ## Periods around a clock -/

theorem Validity.startingAt_eq_ok {now : Instant} {skew expiration : Duration}
    {validity : Validity} :
    startingAt now skew expiration = .ok validity ↔
      now.sub? skew = some validity.notBefore ∧ now.add? expiration = some validity.notAfter := by
  rw [startingAt, orError_both_eq_ok]
  constructor
  · rintro ⟨_, _, start, stop, rfl⟩
    exact ⟨start, stop⟩
  · rintro ⟨start, stop⟩
    exact ⟨_, _, start, stop, rfl⟩

theorem Validity.startingAt_eq_error {now : Instant} {skew expiration : Duration} {error : Error} :
    startingAt now skew expiration = .error error ↔
      error = .expirationOutOfRange expiration ∧
        (now.sub? skew = none ∨ now.add? expiration = none) := by
  rw [startingAt, orError_both_eq_error]

namespace CertificateTemplate

variable {now : Instant} {lifetime : Duration}

/-- When a life that begins now is over, in nanoseconds. -/
def endOfLife (now : Instant) (lifetime : Duration) : Int :=
  now.nanoseconds + (resolveLifetime lifetime).nanoseconds

/-- A period is on the clock from which it is asked for. -/
theorem validityFrom_eq_ok {validity : Validity} :
    validityFrom now lifetime = .ok validity ↔
      (resolveLifetime lifetime).fitsWord = true ∧
        (validity.notBefore.nanoseconds = now.nanoseconds - clockSkew.nanoseconds ∧
          validity.notBefore.offset = now.offset) ∧
        validity.notAfter.nanoseconds = endOfLife now lifetime ∧
          validity.notAfter.offset = now.offset := by
  rw [validityFrom, endOfLife, ← Instant.sub?_eq_some_iff, ← Instant.add?_eq_some_iff,
    ← Validity.startingAt_eq_ok]
  split
  · rename_i fits
    simp only [fits, true_and]
  · rename_i long
    simp only [long, false_and, reduceCtorEq]

/-- A life is accepted if it is not too long for a word and the clock can show the period. -/
theorem exists_validityFrom_iff :
    (∃ validity, validityFrom now lifetime = .ok validity) ↔
      (resolveLifetime lifetime).fitsWord = true ∧
        isLocalTime (now.nanoseconds - clockSkew.nanoseconds + now.offset * nanosecondsPerSecond)
          = true ∧
        isLocalTime (endOfLife now lifetime + now.offset * nanosecondsPerSecond) = true := by
  constructor
  · rintro ⟨validity, accepted⟩
    rcases validityFrom_eq_ok.mp accepted with ⟨fits, ⟨startAt, startClock⟩, stopAt, stopClock⟩
    rw [← startAt, ← stopAt]
    refine ⟨fits, ?_, ?_⟩
    · rw [← startClock]
      exact validity.notBefore.shown
    · rw [← stopClock]
      exact validity.notAfter.shown
  · rintro ⟨fits, startShown, stopShown⟩
    exact ⟨⟨⟨_, _, startShown⟩, ⟨_, _, stopShown⟩⟩,
      validityFrom_eq_ok.mpr ⟨fits, ⟨rfl, rfl⟩, rfl, rfl⟩⟩

/-- A life can only be refused for being out of range. -/
theorem eq_of_validityFrom_eq_error {error : Error}
    (refused : validityFrom now lifetime = .error error) :
    error = .expirationOutOfRange (resolveLifetime lifetime) := by
  rw [validityFrom] at refused
  split at refused
  · exact (Validity.startingAt_eq_error.mp refused).1
  · exact (Except.error.inj refused).symm

/-! ## Lives that end in the last second -/

/-- The life is over after the start of the last second of 9999, and before the end of it. -/
def EndsInLastSecond (now : Instant) (lifetime : Duration) : Prop :=
  nanosecondsAt ⟨9999, 12, 31⟩ 23 59 59 < endOfLife now lifetime ∧
    endOfLife now lifetime < nanosecondsAt ⟨10000, 1, 1⟩ 0 0 0

instance : Decidable (EndsInLastSecond now lifetime) :=
  inferInstanceAs (Decidable (_ ∧ _))

theorem nanoseconds_resolveLifetime_pos (lasting : 0 ≤ lifetime.nanoseconds) :
    0 < (resolveLifetime lifetime).nanoseconds := by
  rw [resolveLifetime]
  split
  · decide
  · omega

theorem nanoseconds_clockSkew :
    clockSkew.nanoseconds = nanosecondsAt ⟨1970, 1, 1⟩ 0 5 0 ∧ 0 < clockSkew.nanoseconds := by
  decide

section Universal

variable (universal : now.offset = 0)
  (since : nanosecondsAt ⟨1970, 1, 1⟩ 0 5 0 ≤ now.nanoseconds)
  (lasting : 0 ≤ lifetime.nanoseconds)
include universal since lasting

/-- A life is accepted up to the end of 9999. -/
theorem exists_validityFrom_universal_iff :
    (∃ validity, validityFrom now lifetime = .ok validity) ↔
      endOfLife now lifetime < nanosecondsAt ⟨10000, 1, 1⟩ 0 0 0 := by
  have positive := nanoseconds_resolveLifetime_pos lasting
  have skew := nanoseconds_clockSkew
  have earliest : nanosecondsAt ⟨-9999, 1, 1⟩ 0 0 0 ≤ 0 := by decide
  have limit : nanosecondsAt ⟨10000, 1, 1⟩ 0 0 0 ≤
      Duration.secondsLimit * nanosecondsPerSecond := by decide
  rw [exists_validityFrom_iff, universal, Int.zero_mul, Int.add_zero, Int.add_zero,
    isLocalTime_iff, isLocalTime_iff, Duration.fitsWord_iff positive.le, endOfLife]
  constructor
  · rintro ⟨-, -, -, ends⟩
    exact ends
  · intro ends
    omega

/-- The period of a life that is accepted can be written up to the start of the last second. -/
theorem exists_toPeriod_iff {validity : Validity}
    (accepted : validityFrom now lifetime = .ok validity) :
    (∃ period, validity.toPeriod = .ok period) ↔
      endOfLife now lifetime ≤ nanosecondsAt ⟨9999, 12, 31⟩ 23 59 59 := by
  rcases validityFrom_eq_ok.mp accepted with ⟨-, ⟨startAt, startClock⟩, stopAt, stopClock⟩
  have positive := nanoseconds_resolveLifetime_pos lasting
  have skew := nanoseconds_clockSkew
  have first : nanosecondsAt ⟨1970, 1, 1⟩ 0 0 0 = 0 := by decide
  rw [Validity.exists_toPeriod_iff, Validity.isWritable_iff_of_universal
    (startClock.trans universal) (stopClock.trans universal), Instant.IsInRange,
    Instant.IsInRange, startAt, stopAt, first, endOfLife]
  constructor
  · rintro ⟨-, -, ends⟩
    exact ends
  · intro ends
    omega

end Universal

/-! ## Templates -/

/-- What is asked for was refused as invalid, or gave a template whose period can be written. -/
def IsRefusedOrWritable : EStateM.Result Error Environment CertificateTemplate → Prop
  | .error error _ => error.kind = .validation
  | .ok template _ => ∃ period, template.validity.toPeriod = .ok period

/-- On a clock that shows universal time, from five minutes into 1970 on, a template is either
refused as invalid or can be written, unless it has uses and its life ends in the last second of
9999.  Then it is built, and no issuer issues it: its period cannot be written. -/
theorem build_and_toPeriod (universal : now.offset = 0)
    (since : nanosecondsAt ⟨1970, 1, 1⟩ 0 5 0 ≤ now.nanoseconds)
    (lasting : 0 ≤ lifetime.nanoseconds) (request : CertificateRequest) (key : Key)
    (usages : List String) (isCa : Bool) (environment : Environment) :
    (IsRefusedOrWritable (build request key lifetime usages isCa now environment) ↔
        (Usage.ofNames usages).isEmpty = true ∨ ¬ EndsInLastSecond now lifetime) ∧
      (¬ IsRefusedOrWritable (build request key lifetime usages isCa now environment) →
        ∃ template after,
          build request key lifetime usages isCa now environment = .ok template after ∧
            template.validity.toPeriod = .error .unwritableTime ∧
              ∀ issuer before certificate final,
                Issuer.issue issuer template before ≠ .ok certificate final) := by
  by_cases unknown : (Usage.ofNames usages).isEmpty = true
  · rw [build_of_unknown unknown]
    exact ⟨iff_of_true rfl (.inl unknown), fun contrary => absurd rfl contrary⟩
  rw [build_of_known unknown, or_iff_right unknown]
  have shown := exists_validityFrom_universal_iff universal since lasting
  cases accepted : validityFrom now lifetime with
  | error error =>
      have invalid : error.kind = .validation := by
        rw [eq_of_validityFrom_eq_error accepted]
        rfl
      have outside : ¬ EndsInLastSecond now lifetime := fun ends => by
        rcases shown.mpr ends.2 with ⟨_, contrary⟩
        cases accepted.symm.trans contrary
      rw [buildWith_eq_error.mpr ⟨accepted, rfl⟩]
      exact ⟨iff_of_true invalid outside, fun contrary => absurd invalid contrary⟩
  | ok validity =>
      have ends := shown.mp ⟨validity, accepted⟩
      have writable := exists_toPeriod_iff universal since lasting accepted
      rw [buildWith_of_validityFrom accepted]
      refine ⟨writable.trans ?_, fun unwritable => ⟨_, _, rfl, ?_, ?_⟩⟩
      · rw [EndsInLastSecond, and_iff_left ends, not_lt]
      · exact Validity.toPeriod_of_not_isWritable (mt Validity.exists_toPeriod_iff.mpr unwritable)
      · intro issuer before certificate final issued
        rcases Issuer.exists_stated_of_issue issued with ⟨_, _, ⟨stated⟩⟩
        exact unwritable ⟨_, stated.period_written⟩

/-- Ten seconds before the end of 9999. -/
def lastNow : Instant := ⟨253402300790000000000, 0, by decide⟩

/-- A request for a certificate without hosts. -/
def hostlessRequest : CertificateRequest :=
  { foreignRequest with hosts := [] }

/-- Nine seconds before the end, a certificate can be asked for; half a second more cannot be
written. -/
theorem build_and_toPeriod_lastNow :
    IsRefusedOrWritable (build hostlessRequest (Key.ofPair (.rsa Rsa.usualKey) []) ⟨9000000000⟩
        ["server auth"] false lastNow exampleEnvironment) ∧
      ∃ template after,
        build hostlessRequest (Key.ofPair (.rsa Rsa.usualKey) []) ⟨9500000000⟩ ["server auth"]
            false lastNow exampleEnvironment = .ok template after ∧
          template.validity.toPeriod = .error .unwritableTime := by
  have universal : lastNow.offset = 0 := rfl
  have since : nanosecondsAt ⟨1970, 1, 1⟩ 0 5 0 ≤ lastNow.nanoseconds := by decide
  refine ⟨(build_and_toPeriod universal since (by decide) _ _ _ _ _).1.mpr (.inr (by decide)), ?_⟩
  have lasting : 0 ≤ (⟨9500000000⟩ : Duration).nanoseconds := by decide
  rcases build_and_toPeriod universal since lasting hostlessRequest
    (Key.ofPair (.rsa Rsa.usualKey) []) ["server auth"] false exampleEnvironment with
    ⟨settled, unsettled⟩
  rcases unsettled (mt settled.mp (by decide)) with ⟨template, after, built, unwritable, -⟩
  exact ⟨template, after, built, unwritable⟩

/-- A life of nine and a half seconds is accepted then, and keeps the certificate from being
issued. -/
theorem issue_lastNow : ∃ template between,
    build hostlessRequest (Key.ofPair (.rsa Rsa.usualKey) []) ⟨9500000000⟩ ["server auth"] false
        lastNow exampleEnvironment = .ok template between ∧
      (exampleIssuer (.rsa Rsa.usualKey)).issue template between =
          .error .unwritableTime between ∧
        Error.unwritableTime.kind = .encoding := by
  obtain ⟨validity, accepted, unwritable⟩ : ∃ validity,
      validityFrom lastNow ⟨9500000000⟩ = .ok validity ∧
        validity.toPeriod = .error .unwritableTime :=
    ⟨⟨⟨253402300490000000000, 0, by decide⟩, ⟨253402300799500000000, 0, by decide⟩⟩,
      by decide, by decide +kernel⟩
  refine ⟨_, _, Operation.bind_eq_ok.mpr ⟨_, _, Usage.resolve_of_known (by decide) (by decide) _,
    buildWith_of_validityFrom accepted _ _ _ _ _⟩, ?_, rfl⟩
  refine Issuer.issue_eq_error.mpr (.inr ⟨none, rfl, .inl ⟨?_, rfl⟩⟩)
  exact toTbs_eq_error.mpr (.inr ⟨rfl, unwritable⟩)

end CertificateTemplate

end CertAuthority
