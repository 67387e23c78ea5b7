import CertAuthority.Proofs.Operation
import CertAuthority.Proofs.X509.Time
import CertAuthority.Validity

/-!
# Periods that can be written

An instant is written to the second, in the form that the year on its own clock
asks for.  Both forms hold universal time.  On a clock that shows universal time
an instant can therefore be written exactly if it is neither before the first
second of 1970 nor after the last of 9999, and the form is the right one
(`Validity.toPeriod_universal`).

Another clock may show a year on the other side of 2050 than universal time
does.  Then the long form is used too early, or the short form does not reach;
these are the only instants for which the clock matters
(`Validity.toPeriod_eq_iff`).
-/

namespace CertAuthority

/-- The nanoseconds from the start of 1970 to a second of a day. -/
def nanosecondsAt (date : Date) (hours minutes seconds : Nat) : Int :=
  (date.dayNumber * secondsPerDay + (hours * 3600 + minutes * 60 + seconds : Nat)) *
    nanosecondsPerSecond

/-- The years before a year are those of the nanoseconds before its start. -/
theorem year_lt_iff {nanoseconds year : Int} :
    (Date.ofDayNumber (nanoseconds / nanosecondsPerDay)).year < year ↔
      nanoseconds < nanosecondsAt ⟨year, 1, 1⟩ 0 0 0 := by
  have start : Date.dayNumber ⟨year, 1, 1⟩ * nanosecondsPerDay =
      nanosecondsAt ⟨year, 1, 1⟩ 0 0 0 := by
    simp only [nanosecondsAt, nanosecondsPerDay]
    push_cast
    ring
  rw [Date.year_ofDayNumber_lt_iff, Int.ediv_lt_iff_lt_mul (by decide), start]

theorem X509.Time.ofSeconds?_eq_some_iff {form : X509.TimeForm} {seconds : Nat}
    {time : X509.Time} :
    ofSeconds? form seconds = some time ↔
      seconds < form.limit ∧ time.form = form ∧ time.seconds = seconds := by
  rw [ofSeconds?, Option.dite_none_right_eq_some]
  constructor
  · rintro ⟨reachable, same⟩
    rcases Option.some.inj same with rfl
    exact ⟨reachable, rfl, rfl⟩
  · rintro ⟨reachable, rfl, rfl⟩
    exact ⟨reachable, rfl⟩

/-! ## Instants -/

namespace Instant

variable {instant : Instant}

/-- The year of universal time. -/
def universalYear (instant : Instant) : Int :=
  (Date.ofDayNumber (instant.nanoseconds / nanosecondsPerDay)).year

theorem universalYear_lt_iff {year : Int} :
    instant.universalYear < year ↔ instant.nanoseconds < nanosecondsAt ⟨year, 1, 1⟩ 0 0 0 :=
  year_lt_iff

theorem localYear_lt_iff {year : Int} :
    instant.localYear < year ↔ instant.nanoseconds + instant.offset * nanosecondsPerSecond <
      nanosecondsAt ⟨year, 1, 1⟩ 0 0 0 :=
  year_lt_iff

theorem agree_of_universal (universal : instant.offset = 0) :
    instant.localYear < 2050 ↔ instant.universalYear < 2050 := by
  simp only [localYear, universalYear, universal, Int.zero_mul, Int.add_zero]

/-- From the first second of 1970 to the last of 9999, neither earlier nor later by any fraction. -/
def IsInRange (instant : Instant) : Prop :=
  nanosecondsAt ⟨1970, 1, 1⟩ 0 0 0 ≤ instant.nanoseconds ∧
    instant.nanoseconds ≤ nanosecondsAt ⟨9999, 12, 31⟩ 23 59 59

theorem isInRange_iff :
    instant.IsInRange ↔ 0 ≤ instant.nanoseconds ∧ instant.nanoseconds ≤ lastWritten := by
  have first : nanosecondsAt ⟨1970, 1, 1⟩ 0 0 0 = 0 := by decide
  have last : nanosecondsAt ⟨9999, 12, 31⟩ 23 59 59 = lastWritten := by decide
  rw [IsInRange, first, last]

theorem IsInRange.seconds_nonneg (inRange : instant.IsInRange) : 0 ≤ instant.seconds :=
  Int.ediv_nonneg (isInRange_iff.mp inRange).1 (by decide)

/-- The form that a year asks for. -/
def formOfYear (year : Int) : X509.TimeForm :=
  if year < 2050 then .utc else .general

theorem formOfYear_eq_iff {first second : Int} :
    formOfYear first = formOfYear second ↔ (first < 2050 ↔ second < 2050) := by
  unfold formOfYear
  by_cases early : first < 2050 <;> by_cases alsoEarly : second < 2050 <;> simp [early, alsoEarly]

/-- An instant of the years that are written, within reach of the form that is chosen for it. -/
structure IsWritable (instant : Instant) : Prop where
  inRange : instant.IsInRange
  reached : instant.localYear < 2050 → instant.universalYear < 2050

theorem isWritable_iff :
    instant.IsWritable ↔
      instant.IsInRange ∧ (instant.localYear < 2050 → instant.universalYear < 2050) :=
  ⟨fun writable => ⟨writable.inRange, writable.reached⟩, fun both => ⟨both.1, both.2⟩⟩

/-- The short form reaches up to 2050, and the long one as far as anything is written. -/
theorem seconds_lt_limit_iff (inRange : instant.IsInRange) :
    instant.seconds.toNat < (formOfYear instant.localYear).limit ↔
      (instant.localYear < 2050 → instant.universalYear < 2050) := by
  have limit : nanosecondsAt ⟨2050, 1, 1⟩ 0 0 0 = 2524608000 * nanosecondsPerSecond := by decide
  have nonneg := inRange.seconds_nonneg
  have last : instant.seconds ≤ 253402300799 :=
    Int.ediv_le_of_le_mul (by decide) (isInRange_iff.mp inRange).2
  rw [universalYear_lt_iff, limit, ← Int.ediv_lt_iff_lt_mul (by decide), ← seconds]
  unfold formOfYear
  split
  · rename_i early
    simp only [X509.TimeForm.limit, early, true_imp_iff]
    omega
  · rename_i late
    simp only [X509.TimeForm.limit, late, false_imp_iff, iff_true]
    omega

/-- What is written for an instant, and when: the local year decides the form and nothing else. -/
theorem toTime?_eq_some_iff {time : X509.Time} :
    instant.toTime? = some time ↔
      instant.IsWritable ∧ time.form = formOfYear instant.localYear ∧
        (time.seconds : Int) = instant.seconds := by
  rw [toTime?, Option.ite_none_right_eq_some, ← isInRange_iff, ← formOfYear,
    X509.Time.ofSeconds?_eq_some_iff, isWritable_iff, and_assoc]
  refine and_congr_right fun inRange => ?_
  have same : time.seconds = instant.seconds.toNat ↔ (time.seconds : Int) = instant.seconds := by
    have nonneg := inRange.seconds_nonneg
    omega
  rw [seconds_lt_limit_iff inRange, same]

theorem exists_toTime?_iff : (∃ time, instant.toTime? = some time) ↔ instant.IsWritable := by
  constructor
  · rintro ⟨time, written⟩
    exact (toTime?_eq_some_iff.mp written).1
  · intro writable
    have nonneg := writable.inRange.seconds_nonneg
    exact ⟨⟨formOfYear instant.localYear, instant.seconds.toNat,
      (seconds_lt_limit_iff writable.inRange).mpr writable.reached⟩,
      toTime?_eq_some_iff.mpr ⟨writable, rfl, Int.toNat_of_nonneg nonneg⟩⟩

theorem seconds_toTime? {time : X509.Time} (written : instant.toTime? = some time) :
    (time.seconds : Int) = instant.seconds :=
  (toTime?_eq_some_iff.mp written).2.2

end Instant

/-- A written time tells an instant: to the second, rounded down, and in the form that the year of
universal time asks for. -/
structure X509.Time.Tells (time : X509.Time) (instant : Instant) : Prop where
  form : time.form = if instant.universalYear < 2050 then .utc else .general
  seconds : (time.seconds : Int) = instant.nanoseconds / nanosecondsPerSecond

theorem Instant.tells_iff {instant : Instant} {time : X509.Time}
    (written : instant.toTime? = some time) :
    time.Tells instant ↔ (instant.localYear < 2050 ↔ instant.universalYear < 2050) := by
  rcases toTime?_eq_some_iff.mp written with ⟨-, form, seconds⟩
  rw [← formOfYear_eq_iff, ← form]
  exact ⟨fun tells => tells.form, fun same => ⟨same, seconds⟩⟩

/-- An instant is written in the right form exactly if its clock and universal time agree about
2050. -/
theorem Instant.exists_tells_iff {instant : Instant} :
    (∃ time, instant.toTime? = some time ∧ time.Tells instant) ↔
      instant.IsInRange ∧ (instant.localYear < 2050 ↔ instant.universalYear < 2050) := by
  constructor
  · rintro ⟨time, written, tells⟩
    exact ⟨(toTime?_eq_some_iff.mp written).1.inRange, (tells_iff written).mp tells⟩
  · rintro ⟨inRange, agrees⟩
    rcases exists_toTime?_iff.mpr ⟨inRange, agrees.mp⟩ with ⟨time, written⟩
    exact ⟨time, written, (tells_iff written).mpr agrees⟩

/-- The clock from which an instant is seen matters only by the side of 2050 that it shows. -/
theorem Instant.toTime?_eq_of_agree {first second : Instant}
    (same : first.nanoseconds = second.nanoseconds)
    (agree : first.localYear < 2050 ↔ second.localYear < 2050) :
    first.toTime? = second.toTime? := by
  have seconds : first.seconds = second.seconds := by rw [Instant.seconds, same, Instant.seconds]
  simp only [toTime?, same, seconds, agree]

theorem Instant.agree_of_toTime? {first second : Instant} {time : X509.Time}
    (firstWritten : first.toTime? = some time) (secondWritten : second.toTime? = some time) :
    first.localYear < 2050 ↔ second.localYear < 2050 := by
  rw [← formOfYear_eq_iff, ← (toTime?_eq_some_iff.mp firstWritten).2.1,
    (toTime?_eq_some_iff.mp secondWritten).2.1]

/-- A clock and universal time disagree about 2050 only as long as the clock is ahead or behind. -/
theorem Instant.near_of_disagree {instant : Instant}
    (disagree : ¬ (instant.localYear < 2050 ↔ instant.universalYear < 2050)) :
    (instant.nanoseconds - nanosecondsAt ⟨2050, 1, 1⟩ 0 0 0).natAbs ≤
      instant.offset.natAbs * nanosecondsPerSecond := by
  rw [localYear_lt_iff, universalYear_lt_iff] at disagree
  simp only [nanosecondsPerSecond] at disagree ⊢
  omega

/-! ## Periods -/

namespace Validity

variable {validity : Validity}

theorem toPeriod_eq_ok {period : X509.Period} :
    validity.toPeriod = .ok period ↔
      validity.notBefore.toTime? = some period.notBefore ∧
        validity.notAfter.toTime? = some period.notAfter := by
  rw [toPeriod, orError_both_eq_ok]
  constructor
  · rintro ⟨_, _, start, stop, rfl⟩
    exact ⟨start, stop⟩
  · rintro ⟨start, stop⟩
    exact ⟨_, _, start, stop, rfl⟩

theorem toPeriod_eq_error {error : Error} :
    validity.toPeriod = .error error ↔
      error = .unwritableTime ∧
        (validity.notBefore.toTime? = none ∨ validity.notAfter.toTime? = none) := by
  rw [toPeriod, orError_both_eq_error]

theorem seconds_toPeriod {period : X509.Period} (written : validity.toPeriod = .ok period) :
    (period.notBefore.seconds : Int) = validity.notBefore.seconds ∧
      (period.notAfter.seconds : Int) = validity.notAfter.seconds := by
  rcases toPeriod_eq_ok.mp written with ⟨start, stop⟩
  exact ⟨Instant.seconds_toTime? start, Instant.seconds_toTime? stop⟩

/-- Both ends of a period can be written. -/
structure IsWritable (validity : Validity) : Prop where
  notBefore : validity.notBefore.IsWritable
  notAfter : validity.notAfter.IsWritable

theorem exists_toPeriod_iff : (∃ period, validity.toPeriod = .ok period) ↔ validity.IsWritable := by
  constructor
  · rintro ⟨period, written⟩
    rcases toPeriod_eq_ok.mp written with ⟨start, stop⟩
    exact ⟨Instant.exists_toTime?_iff.mp ⟨_, start⟩, Instant.exists_toTime?_iff.mp ⟨_, stop⟩⟩
  · intro writable
    rcases Instant.exists_toTime?_iff.mpr writable.notBefore with ⟨notBefore, start⟩
    rcases Instant.exists_toTime?_iff.mpr writable.notAfter with ⟨notAfter, stop⟩
    exact ⟨⟨notBefore, notAfter⟩, toPeriod_eq_ok.mpr ⟨start, stop⟩⟩

theorem toPeriod_of_not_isWritable (unwritable : ¬ validity.IsWritable) :
    validity.toPeriod = .error .unwritableTime := by
  cases written : validity.toPeriod with
  | ok period => exact absurd (exists_toPeriod_iff.mp ⟨period, written⟩) unwritable
  | error error => rw [(toPeriod_eq_error.mp written).1]

theorem isWritable_iff_of_universal (start : validity.notBefore.offset = 0)
    (stop : validity.notAfter.offset = 0) :
    validity.IsWritable ↔ validity.notBefore.IsInRange ∧ validity.notAfter.IsInRange := by
  constructor
  · intro writable
    exact ⟨writable.notBefore.inRange, writable.notAfter.inRange⟩
  · rintro ⟨first, last⟩
    exact ⟨⟨first, (Instant.agree_of_universal start).mp⟩,
      ⟨last, (Instant.agree_of_universal stop).mp⟩⟩

/-- On clocks that show universal time, a period can be written exactly if it is within the seconds
from the first of 1970 to the last of 9999.  What is written tells both ends, and is read back, so
that a start that is not after the end is not written after it either. -/
theorem toPeriod_universal (start : validity.notBefore.offset = 0)
    (stop : validity.notAfter.offset = 0) :
    ((∃ period, validity.toPeriod = .ok period) ↔
        validity.notBefore.IsInRange ∧ validity.notAfter.IsInRange) ∧
      ∀ period, validity.toPeriod = .ok period →
        period.notBefore.Tells validity.notBefore ∧ period.notAfter.Tells validity.notAfter ∧
          Der.complete X509.Period.decode period.encode = some period ∧
            (validity.notBefore.nanoseconds ≤ validity.notAfter.nanoseconds →
              period.notBefore.seconds ≤ period.notAfter.seconds) := by
  refine ⟨exists_toPeriod_iff.trans (isWritable_iff_of_universal start stop),
    fun period written => ?_⟩
  rcases toPeriod_eq_ok.mp written with ⟨first, last⟩
  have tellsStart := (Instant.tells_iff first).mpr (Instant.agree_of_universal start)
  have tellsStop := (Instant.tells_iff last).mpr (Instant.agree_of_universal stop)
  refine ⟨tellsStart, tellsStop, period.complete_encode, fun ordered => ?_⟩
  have seconds := Int.ediv_le_ediv (c := nanosecondsPerSecond) (by decide) ordered
  rw [← tellsStart.seconds, ← tellsStop.seconds] at seconds
  exact Int.ofNat_le.mp seconds

/-- From the last nanosecond of 2049 to the next. -/
def turn : Validity :=
  ⟨⟨2524607999999999999, 0, by decide⟩, ⟨2524608000000000000, 0, by decide⟩⟩

/-- The last nanosecond of 2049 is written with two digits of the year, and the next with four. -/
theorem toPeriod_universal_turn : ∃ period, turn.toPeriod = .ok period ∧
    (period.notBefore.form = .utc ∧ (period.notBefore.seconds : Int) = 2524607999) ∧
      period.notAfter.form = .general ∧ (period.notAfter.seconds : Int) = 2524608000 := by
  have start : turn.notBefore.offset = 0 := rfl
  have stop : turn.notAfter.offset = 0 := rfl
  rcases toPeriod_universal start stop with ⟨succeeds, tells⟩
  rcases succeeds.mpr ⟨⟨by decide, by decide⟩, by decide, by decide⟩ with ⟨period, written⟩
  rcases tells period written with ⟨tellsStart, tellsStop, -⟩
  exact ⟨period, written, ⟨tellsStart.form, tellsStart.seconds⟩, tellsStop.form, tellsStop.seconds⟩

/-! ### Clocks -/

/-- Two periods between the same instants are written alike, or neither can be, exactly if their
clocks agree about 2050 at both ends, or if neither can be written.  An instant is written in the
form that universal time asks for exactly if its clock agrees with universal time, which it does but
for instants no farther from the start of 2050 than the clock is from universal time. -/
theorem toPeriod_eq_iff {first second : Validity}
    (starts : first.notBefore.nanoseconds = second.notBefore.nanoseconds)
    (ends : first.notAfter.nanoseconds = second.notAfter.nanoseconds) :
    (first.toPeriod = second.toPeriod ↔
        (first.notBefore.localYear < 2050 ↔ second.notBefore.localYear < 2050) ∧
            (first.notAfter.localYear < 2050 ↔ second.notAfter.localYear < 2050) ∨
          ¬ first.IsWritable ∧ ¬ second.IsWritable) ∧
      ∀ instant : Instant,
        ((∃ time, instant.toTime? = some time ∧ time.Tells instant) ↔
            instant.IsInRange ∧ (instant.localYear < 2050 ↔ instant.universalYear < 2050)) ∧
          (¬ (instant.localYear < 2050 ↔ instant.universalYear < 2050) →
            (instant.nanoseconds - nanosecondsAt ⟨2050, 1, 1⟩ 0 0 0).natAbs ≤
              instant.offset.natAbs * nanosecondsPerSecond) := by
  refine ⟨⟨fun same => ?_, ?_⟩, fun instant =>
    ⟨Instant.exists_tells_iff, Instant.near_of_disagree⟩⟩
  · by_cases writable : first.IsWritable
    · rcases exists_toPeriod_iff.mpr writable with ⟨period, written⟩
      rcases toPeriod_eq_ok.mp written with ⟨firstStart, firstEnd⟩
      rcases toPeriod_eq_ok.mp (same.symm.trans written) with ⟨secondStart, secondEnd⟩
      exact .inl ⟨Instant.agree_of_toTime? firstStart secondStart,
        Instant.agree_of_toTime? firstEnd secondEnd⟩
    · refine .inr ⟨writable, fun other => writable ?_⟩
      rw [← exists_toPeriod_iff] at other ⊢
      rwa [same]
  · rintro (⟨startsAgree, endsAgree⟩ | ⟨firstFails, secondFails⟩)
    · rw [toPeriod, Instant.toTime?_eq_of_agree starts startsAgree,
        Instant.toTime?_eq_of_agree ends endsAgree, ← toPeriod]
    · rw [toPeriod_of_not_isWritable firstFails, toPeriod_of_not_isWritable secondFails]

/-- A quarter of an hour on the last evening of 2049. -/
def lastEvening : Validity :=
  ⟨⟨2524605900000000000, 0, by decide⟩, ⟨2524606800000000000, 0, by decide⟩⟩

/-- The same quarter of an hour, seen from a clock that is an hour ahead. -/
def lastEveningAhead : Validity :=
  ⟨⟨2524605900000000000, 3600, by decide⟩, ⟨2524606800000000000, 3600, by decide⟩⟩

/-- The same quarter of an hour, seen from a clock that is an hour behind. -/
def lastEveningBehind : Validity :=
  ⟨⟨2524605900000000000, -3600, by decide⟩, ⟨2524606800000000000, -3600, by decide⟩⟩

/-- Seen from a clock that is behind, the evening is written as it is in universal time; seen from
one on which it is 2050 already, it is not. -/
theorem toPeriod_eq_iff_lastEvening :
    lastEvening.toPeriod = lastEveningBehind.toPeriod ∧
      lastEvening.toPeriod ≠ lastEveningAhead.toPeriod := by
  have starts : lastEvening.notBefore.nanoseconds = lastEveningAhead.notBefore.nanoseconds := rfl
  refine ⟨(toPeriod_eq_iff rfl rfl).1.mpr (.inl ⟨by decide +kernel, by decide +kernel⟩),
    fun same => ?_⟩
  rcases (toPeriod_eq_iff starts rfl).1.mp same with ⟨agree, -⟩ | ⟨unwritable, -⟩
  · exact absurd agree (by decide +kernel)
  · exact unwritable ⟨⟨⟨by decide, by decide⟩, by decide +kernel⟩,
      ⟨⟨by decide, by decide⟩, by decide +kernel⟩⟩

/-- A quarter of an hour in the first night of 2050, seen from a clock that is an hour behind. -/
def firstNightBehind : Validity :=
  ⟨⟨2524609500000000000, -3600, by decide⟩, ⟨2524610400000000000, -3600, by decide⟩⟩

/-- The clock changes what is written: the evening has two digits of the year in universal time and
four an hour ahead, and the night after it cannot be written an hour behind. -/
theorem toPeriod_depends_on_clock :
    (lastEvening.notBefore.nanoseconds = lastEveningAhead.notBefore.nanoseconds ∧
        lastEvening.notAfter.nanoseconds = lastEveningAhead.notAfter.nanoseconds) ∧
      (lastEvening.toPeriod.map fun period => period.notBefore.form) = .ok .utc ∧
        (lastEveningAhead.toPeriod.map fun period => period.notBefore.form) = .ok .general ∧
          (firstNightBehind.notBefore.IsInRange ∧ firstNightBehind.notAfter.IsInRange) ∧
            firstNightBehind.toPeriod = .error .unwritableTime :=
  ⟨⟨rfl, rfl⟩, by decide +kernel, by decide +kernel,
    ⟨⟨by decide, by decide⟩, by decide, by decide⟩, by decide +kernel⟩

end Validity

end CertAuthority
