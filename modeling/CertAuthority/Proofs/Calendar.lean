import CertAuthority.Calendar
import Mathlib.Tactic.NormNum

/-!
# Days and dates

Counting the days of the date of a day gives the day again, and that date is
always one of the calendar.  A day of a cycle of four hundred years is split
into centuries, groups of four years, years and days, on which both
computations are linear; the two years that are longer than the others are the
last of a group, and the last of a cycle.
-/

namespace CertAuthority.Date

/--
The place of a day in a cycle of four hundred years that begin in March.  Only
the last year of a group has a 366th day, and not if it ends a century that
does not end the cycle.
-/
structure CyclePlace (day : Int) where
  century : Int
  group : Int
  year : Int
  dayOfYear : Int
  century_range : 0 ≤ century ∧ century ≤ 3
  group_range : 0 ≤ group ∧ group ≤ 24
  year_range : 0 ≤ year ∧ year ≤ 3
  day_range : 0 ≤ dayOfYear ∧ dayOfYear ≤ 365
  last_day : dayOfYear = 365 → year = 3 ∧ (group = 24 → century = 3)
  total : day = 36524 * century + 1461 * group + 365 * year + dayOfYear

namespace CyclePlace

/-- The year within the cycle. -/
def yearOfCycle {day : Int} (place : CyclePlace day) : Int :=
  100 * place.century + 4 * place.group + place.year

theorem exists_of_bounds {day : Int} (low : 0 ≤ day) (high : day < cycleDays) :
    Nonempty (CyclePlace day) := by
  have bound : day < 146097 := high
  let century := min (day / 36524) 3
  let dayOfCentury := day - 36524 * century
  let year := min (dayOfCentury % 1461 / 365) 3
  refine ⟨⟨century, dayOfCentury / 1461, year, dayOfCentury % 1461 - 365 * year, ?_, ?_, ?_, ?_, ?_,
    ?_⟩⟩ <;> omega

theorem yearOfCycle_eq {day : Int} (place : CyclePlace day) :
    (day - day / 1460 + day / 36524 - day / 146096) / 365 = place.yearOfCycle := by
  rcases place with ⟨century, group, year, dayOfYear, centuries, groups, years, days, last, total⟩
  have quarter : day / 1460 = 25 * century + group ∨
      day / 1460 = 25 * century + group + 1 ∧
        1460 ≤ 24 * century + group + 365 * year + dayOfYear := by omega
  have hundred : day / 36524 = century ∨
      century = 3 ∧ group = 24 ∧ year = 3 ∧ dayOfYear = 365 ∧ day / 36524 = 4 := by omega
  have cycle : day / 146096 = 0 ∨ day = 146096 ∧ day / 146096 = 1 := by omega
  simp only [yearOfCycle]
  omega

theorem dayOfYear_eq {day : Int} (place : CyclePlace day) :
    day - (365 * place.yearOfCycle + place.yearOfCycle / 4 - place.yearOfCycle / 100) =
      place.dayOfYear := by
  rcases place with ⟨century, group, year, dayOfYear, centuries, groups, years, days, last, total⟩
  simp only [yearOfCycle]
  omega

end CyclePlace

/-- The month, counted from March, of a day of a year. -/
def monthFromMarch (dayOfYear : Int) : Int :=
  (5 * dayOfYear + 2) / 153

/--
The date of a day, by its cycle and its place there: the day of the month and
the month as numbers from the start of March.
-/
theorem ofDayNumber_eq {number : Int}
    (place : CyclePlace ((number + originOffset) % cycleDays)) :
    ofDayNumber number =
      let month := monthFromMarch place.dayOfYear
      let year := 400 * ((number + originOffset) / cycleDays) + place.yearOfCycle
      let day := place.dayOfYear - (153 * month + 2) / 5 + 1
      if month < 10 then ⟨year, (month + 3).toNat, day.toNat⟩
      else ⟨year + 1, (month - 9).toNat, day.toNat⟩ := by
  have range := place.day_range
  simp only [ofDayNumber, place.yearOfCycle_eq, place.dayOfYear_eq]
  rw [← monthFromMarch]
  have months : 0 ≤ monthFromMarch place.dayOfYear := by
    unfold monthFromMarch
    omega
  by_cases spring : monthFromMarch place.dayOfYear < 10
  · have late : ¬ monthFromMarch place.dayOfYear + 3 ≤ 2 := by omega
    simp only [spring, if_true, late, if_false]
  · have early : monthFromMarch place.dayOfYear - 9 ≤ 2 := by
      unfold monthFromMarch
      omega
    simp only [spring, if_false, early, if_true]

/-- The place of the day of a number in its cycle. -/
theorem exists_place (number : Int) :
    Nonempty (CyclePlace ((number + originOffset) % cycleDays)) :=
  CyclePlace.exists_of_bounds (Int.emod_nonneg _ (by decide)) (Int.emod_lt_of_pos _ (by decide))

/-- The days before a year, counted from March, of a cycle. -/
theorem daysBefore_yearOfCycle {day : Int} (place : CyclePlace day) (cycle : Int) :
    let year := 400 * cycle + place.yearOfCycle
    365 * year + year / 4 - year / 100 + year / 400 =
      cycleDays * cycle + day - place.dayOfYear := by
  rcases place with ⟨century, group, year, dayOfYear, centuries, groups, years, days, last, total⟩
  simp only [CyclePlace.yearOfCycle, cycleDays]
  have quarters : (400 * cycle + (100 * century + 4 * group + year)) / 4 =
      100 * cycle + 25 * century + group := by omega
  have hundreds : (400 * cycle + (100 * century + 4 * group + year)) / 100 =
      4 * cycle + century := by omega
  have cycles : (400 * cycle + (100 * century + 4 * group + year)) / 400 = cycle := by omega
  rw [quarters, hundreds, cycles]
  omega

theorem dayNumber_ofDayNumber (number : Int) : (ofDayNumber number).dayNumber = number := by
  rcases exists_place number with ⟨place⟩
  have split := Int.mul_ediv_add_emod (number + originOffset) cycleDays
  have before := daysBefore_yearOfCycle place ((number + originOffset) / cycleDays)
  have range := place.day_range
  rw [ofDayNumber_eq place]
  generalize (number + originOffset) / cycleDays = cycle at split before
  generalize place.yearOfCycle = year at before
  generalize place.dayOfYear = dayOfYear at before range
  have months : monthFromMarch dayOfYear = (5 * dayOfYear + 2) / 153 := rfl
  simp only at before ⊢
  split
  · have late : ¬ (monthFromMarch dayOfYear + 3).toNat ≤ 2 := by omega
    have month : ((monthFromMarch dayOfYear + 3).toNat : Int) - 3 = monthFromMarch dayOfYear := by
      omega
    simp only [dayNumber, late, if_false, month]
    omega
  · have early : (monthFromMarch dayOfYear - 9).toNat ≤ 2 := by omega
    have month : ((monthFromMarch dayOfYear - 9).toNat : Int) + 9 = monthFromMarch dayOfYear := by
      omega
    simp only [dayNumber, early, if_true, month, Int.add_sub_cancel]
    omega

theorem isLeapYear_of_last_day {day : Int} (place : CyclePlace day) (cycle : Int)
    (last : place.dayOfYear = 365) :
    isLeapYear (400 * cycle + place.yearOfCycle + 1) = true := by
  have long := place.last_day last
  have groups := place.group_range
  simp only [isLeapYear, CyclePlace.yearOfCycle, Bool.and_eq_true, Bool.or_eq_true, beq_iff_eq,
    bne_iff_ne]
  omega

theorem isValid_ofDayNumber (number : Int) : (ofDayNumber number).isValid = true := by
  rcases exists_place number with ⟨place⟩
  rw [ofDayNumber_eq place]
  have leap := isLeapYear_of_last_day place ((number + originOffset) / cycleDays)
  have range := place.day_range
  generalize place.dayOfYear = dayOfYear at leap range
  have months : monthFromMarch dayOfYear = (5 * dayOfYear + 2) / 153 := rfl
  simp only
  split
  · simp only [isValid, daysInMonth, Bool.and_eq_true, decide_eq_true_eq]
    refine ⟨⟨⟨by omega, by omega⟩, by omega⟩, ?_⟩
    rw [if_neg (by omega)]
    split <;> omega
  · simp only [isValid, daysInMonth, Bool.and_eq_true, decide_eq_true_eq]
    refine ⟨⟨⟨by omega, by omega⟩, by omega⟩, ?_⟩
    by_cases february : (monthFromMarch dayOfYear - 9).toNat = 2
    · rw [if_pos february]
      by_cases last : dayOfYear = 365
      · rw [if_pos (leap last)]
        omega
      · split <;> omega
    · rw [if_neg february, if_neg (by omega)]
      omega

/-! ## Years -/

theorem dayNumber_monotone_year {date : Date} {year : Int} (valid : date.isValid = true)
    (later : year ≤ date.year) : dayNumber ⟨year, 1, 1⟩ ≤ date.dayNumber := by
  simp only [isValid, Bool.and_eq_true, decide_eq_true_eq] at valid
  simp only [dayNumber, Nat.one_le_ofNat, if_true]
  split <;> omega

theorem daysInMonth_le (year : Int) (month : Nat) :
    daysInMonth year month ≤ 31 ∧ (month = 2 → daysInMonth year month ≤ 29) := by
  unfold daysInMonth
  constructor
  · split
    · split <;> decide
    · split <;> decide
  · rintro rfl
    simp only [if_true]
    split <;> decide

theorem dayNumber_lt_of_year_lt {date : Date} {year : Int} (valid : date.isValid = true)
    (earlier : date.year < year) : date.dayNumber < dayNumber ⟨year, 1, 1⟩ := by
  have longest := daysInMonth_le date.year date.month
  simp only [isValid, Bool.and_eq_true, decide_eq_true_eq] at valid
  generalize daysInMonth date.year date.month = days at longest valid
  simp only [dayNumber, Nat.one_le_ofNat, if_true]
  split <;> omega

/-- The years before a year are those of the days before its first. -/
theorem year_ofDayNumber_lt_iff {number year : Int} :
    (ofDayNumber number).year < year ↔ number < dayNumber ⟨year, 1, 1⟩ := by
  have valid := isValid_ofDayNumber number
  constructor
  · intro earlier
    have before := dayNumber_lt_of_year_lt valid earlier
    rwa [dayNumber_ofDayNumber] at before
  · intro before
    by_contra later
    have after := dayNumber_monotone_year valid (Int.not_lt.mp later)
    rw [dayNumber_ofDayNumber] at after
    exact absurd before (Int.not_lt.mpr after)

/-! ## Dates and days -/

/-- The days of a month, counted from March, among which there are all days of the calendar. -/
def IsDayFromMarch (month day : Int) : Prop :=
  (0 ≤ month ∧ month ≤ 11) ∧ (1 ≤ day ∧ day ≤ 31) ∧
    (month = 1 ∨ month = 3 ∨ month = 6 ∨ month = 8 ∨ month = 11 → day ≤ 30)

/-- The month, counted from March, is found from a day of it. -/
theorem monthFromMarch_of_day {month day : Int} (inMonth : IsDayFromMarch month day) :
    monthFromMarch ((153 * month + 2) / 5 + day - 1) = month := by
  rcases inMonth with ⟨months, days, short⟩
  have some : month = 0 ∨ month = 1 ∨ month = 2 ∨ month = 3 ∨ month = 4 ∨ month = 5 ∨ month = 6 ∨
      month = 7 ∨ month = 8 ∨ month = 9 ∨ month = 10 ∨ month = 11 := by omega
  unfold monthFromMarch
  rcases some with rfl | rfl | rfl | rfl | rfl | rfl | rfl | rfl | rfl | rfl | rfl | rfl <;> omega

/-- Different days of the months are different days of the year. -/
theorem eq_of_dayOfYear_eq {month day otherMonth otherDay : Int}
    (inMonth : IsDayFromMarch month day) (inOther : IsDayFromMarch otherMonth otherDay)
    (same : (153 * month + 2) / 5 + day = (153 * otherMonth + 2) / 5 + otherDay) :
    month = otherMonth ∧ day = otherDay := by
  have found := monthFromMarch_of_day inMonth
  rw [same, monthFromMarch_of_day inOther] at found
  obtain rfl := found
  exact ⟨rfl, Int.add_left_cancel same⟩

/-- The bounds of a date that depend on its month, and on its year in February. -/
theorem bounds_of_isValid {date : Date} (valid : date.isValid = true) :
    (1 ≤ date.month ∧ date.month ≤ 12) ∧ (1 ≤ date.day ∧ date.day ≤ 31) ∧
      (date.month = 4 ∨ date.month = 6 ∨ date.month = 9 ∨ date.month = 11 → date.day ≤ 30) ∧
        (date.month = 2 → date.day ≤ 28 ∨
          date.day = 29 ∧ date.year % 4 = 0 ∧ (date.year % 100 ≠ 0 ∨ date.year % 400 = 0)) := by
  have leap : isLeapYear date.year = true ↔
      date.year % 4 = 0 ∧ (date.year % 100 ≠ 0 ∨ date.year % 400 = 0) := by
    simp [isLeapYear]
  simp only [isValid, Bool.and_eq_true, decide_eq_true_eq] at valid
  have longest := daysInMonth_le date.year date.month
  refine ⟨valid.1.1, ⟨valid.1.2, valid.2.trans longest.1⟩, fun short => ?_, fun february => ?_⟩
  · have days : daysInMonth date.year date.month = 30 := by
      unfold daysInMonth
      rw [if_neg (by omega), if_pos short]
    omega
  · have days : daysInMonth date.year date.month = if isLeapYear date.year then 29 else 28 :=
      if_pos february
    rw [← leap]
    split at days
    · rename_i long
      exact (Nat.lt_or_ge date.day 29).imp Nat.le_of_lt_succ fun least => ⟨by omega, long⟩
    · exact Or.inl (by omega)

theorem isDayFromMarch {date : Date} (valid : date.isValid = true) :
    IsDayFromMarch (if date.month ≤ 2 then date.month + 9 else date.month - 3) date.day := by
  rcases bounds_of_isValid valid with ⟨months, days, short, february⟩
  unfold IsDayFromMarch
  split <;> omega

/-- The days of January and February come before the others of their year. -/
theorem dayNumber_lt_of_month_le {first second : Date} (firstValid : first.isValid = true)
    (secondValid : second.isValid = true) (years : first.year = second.year)
    (early : first.month ≤ 2) (late : ¬ second.month ≤ 2) : first.dayNumber < second.dayNumber := by
  rcases bounds_of_isValid firstValid with ⟨⟨firstMonth, -⟩, ⟨-, longest⟩, -, february⟩
  rcases bounds_of_isValid secondValid with ⟨-, ⟨begun, -⟩, -⟩
  simp only [dayNumber, if_pos early, if_neg late, ← years]
  omega

/-- Different dates of the calendar are different days. -/
theorem eq_of_dayNumber_eq {first second : Date} (firstValid : first.isValid = true)
    (secondValid : second.isValid = true) (same : first.dayNumber = second.dayNumber) :
    first = second := by
  have notEarlier : ¬ first.year < second.year := fun earlier =>
    absurd same ((dayNumber_lt_of_year_lt firstValid earlier).trans_le
      (dayNumber_monotone_year secondValid (Int.le_refl _))).ne
  have notLater : ¬ second.year < first.year := fun later =>
    absurd same.symm ((dayNumber_lt_of_year_lt secondValid later).trans_le
      (dayNumber_monotone_year firstValid (Int.le_refl _))).ne
  have years : first.year = second.year := by omega
  have halves : first.month ≤ 2 ↔ second.month ≤ 2 := by
    constructor
    · intro early
      by_contra late
      exact absurd same (dayNumber_lt_of_month_le firstValid secondValid years early late).ne
    · intro early
      by_contra late
      exact absurd same.symm
        (dayNumber_lt_of_month_le secondValid firstValid years.symm early late).ne
  have place := eq_of_dayOfYear_eq (isDayFromMarch firstValid) (isDayFromMarch secondValid) (by
    simp only [dayNumber, years, halves] at same ⊢
    omega)
  rcases first with ⟨year, firstMonth, firstDay⟩
  rcases second with ⟨secondYear, secondMonth, secondDay⟩
  obtain rfl : year = secondYear := years
  simp only [halves] at place
  have months : firstMonth = secondMonth := by
    split at place <;> omega
  rw [months, Int.ofNat_inj.mp place.2]

/-- The date of the day of a date is that date. -/
theorem ofDayNumber_dayNumber {date : Date} (valid : date.isValid = true) :
    ofDayNumber date.dayNumber = date :=
  eq_of_dayNumber_eq (isValid_ofDayNumber _) valid (dayNumber_ofDayNumber _)

end CertAuthority.Date
