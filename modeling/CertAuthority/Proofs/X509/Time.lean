import CertAuthority.Proofs.Calendar
import CertAuthority.Proofs.Der.Exact
import CertAuthority.X509.Time
import Mathlib.Data.List.Induction

/-!
# Reading times back

A written time is digits of fixed widths.  Its year is from 1970 on and below
the limit of its form, so that two digits of it tell which one it is.  The
other way round, digits and dates have one form only, so that no time is read
from anything but what is written for it.
-/

namespace CertAuthority.X509

namespace Time

theorem number?_append {left : Octets} {value digit : Nat} (known : number? left = some value)
    (small : digit < 10) :
    number? (left ++ [UInt8.ofNat (0x30 + digit)]) = some (value * 10 + digit) := by
  have octet : (UInt8.ofNat (0x30 + digit)).toNat = 0x30 + digit := by
    rw [UInt8.toNat_ofNat']
    omega
  have inRange : 0x30 ≤ UInt8.ofNat (0x30 + digit) ∧ UInt8.ofNat (0x30 + digit) ≤ 0x39 := by
    rw [UInt8.le_iff_toNat_le, UInt8.le_iff_toNat_le, octet]
    constructor
    · exact Nat.le_add_right _ _
    · exact Nat.add_le_add_left (Nat.le_of_lt_succ small) 0x30
  generalize UInt8.ofNat (0x30 + digit) = char at octet inRange
  unfold number? at known ⊢
  split at known
  · rename_i all
    rw [List.all_append, all, List.foldl_append]
    simp [inRange, octet, Option.some.inj known]
  · cases known

theorem number?_digits (count value : Nat) :
    number? (digits count value) = some (value % 10 ^ count) := by
  induction count generalizing value with
  | zero => simp [digits, number?, Nat.mod_one]
  | succ count ih =>
      have digit : value % 10 < 10 := Nat.mod_lt _ (by decide)
      rw [digits, number?_append (ih (value / 10)) digit, Nat.pow_succ',
        Nat.mod_mul, Nat.mul_comm, Nat.add_comm]

/-- Two digits of a number below a hundred. -/
theorem number?_two_digits {value : Nat} (small : value < 100) :
    number? (digits 2 value) = some value := by
  rw [number?_digits]
  exact congrArg some (Nat.mod_eq_of_lt small)

/-- The fields of a written time are found at their places. -/
theorem ofContent?_digits {form : TimeForm} {year month day hours minutes seconds : Nat} :
    ofContent? form (digits form.yearDigits year ++
      ([month, day, hours, minutes, seconds].flatMap (digits 2) ++ [zone])) =
      (do
        let year := form.year (← number? (digits form.yearDigits year))
        let date : Date :=
          ⟨year, ← number? (digits 2 month), ← number? (digits 2 day)⟩
        let hours ← number? (digits 2 hours)
        let minutes ← number? (digits 2 minutes)
        let seconds ← number? (digits 2 seconds)
        if date.isValid && 1970 ≤ year && hours < 24 && minutes < 60 && seconds < 60 then
          ofSeconds? form
            (date.dayNumber.toNat * secondsPerDay + hours * 3600 + minutes * 60 + seconds)
        else none) := by
  cases form <;> rfl

/-- The year from which on a form is not used. -/
def endYear : TimeForm → Int
  | .utc => 2050
  | .general => 10000

theorem limit_eq (form : TimeForm) :
    (form.limit : Int) = Date.dayNumber ⟨endYear form, 1, 1⟩ * secondsPerDay := by
  cases form <;> decide

/-- The written digits tell the year. -/
theorem year_mod {form : TimeForm} {year : Int} (low : 1970 ≤ year) (high : year < endYear form) :
    form.year (year.toNat % 10 ^ form.yearDigits) = year.toNat := by
  cases form with
  | utc =>
      have power : 10 ^ TimeForm.utc.yearDigits = 100 := rfl
      simp only [endYear] at high
      rw [power, TimeForm.year]
      split <;> omega
  | general =>
      have power : 10 ^ TimeForm.general.yearDigits = 10000 := rfl
      simp only [endYear] at high
      rw [power, TimeForm.year]
      omega

/-- A date of the years of a form is read back, with a second of the day. -/
theorem ofContent?_date {form : TimeForm} {date : Date} {second : Nat}
    (valid : date.isValid = true) (low : 1970 ≤ date.year) (high : date.year < endYear form)
    (inDay : second < secondsPerDay) :
    ofContent? form (digits form.yearDigits date.year.toNat ++
      ([date.month, date.day, second / 3600, second / 60 % 60, second % 60].flatMap (digits 2) ++
        [zone])) =
      ofSeconds? form (date.dayNumber.toNat * secondsPerDay + second) := by
  have small : date.month < 100 ∧ date.day < 100 := by
    have longest := Date.daysInMonth_le date.year date.month
    simp only [Date.isValid, Bool.and_eq_true, decide_eq_true_eq] at valid
    omega
  have hours : second / 3600 < 24 := by
    simp only [secondsPerDay] at inDay
    omega
  have minutes : second / 60 % 60 < 60 := Nat.mod_lt _ (by decide)
  have seconds : second % 60 < 60 := Nat.mod_lt _ (by decide)
  have total : date.dayNumber.toNat * secondsPerDay + second / 3600 * 3600 +
      second / 60 % 60 * 60 + second % 60 = date.dayNumber.toNat * secondsPerDay + second := by
    omega
  have year : ((date.year.toNat : Nat) : Int) = date.year := Int.toNat_of_nonneg (by omega)
  have early : 1970 ≤ date.year.toNat := by omega
  rw [ofContent?_digits, number?_digits, number?_two_digits small.1, number?_two_digits small.2,
    number?_two_digits (Nat.lt_trans hours (by decide)),
    number?_two_digits (Nat.lt_trans minutes (by decide)),
    number?_two_digits (Nat.lt_trans seconds (by decide))]
  simp only [Option.bind_eq_bind, Option.bind_some, year_mod low high, year, valid, early, hours,
    minutes, seconds, decide_true, Bool.and_self, if_true, total]

theorem ofContent?_content (time : Time) : ofContent? time.form time.content = some time := by
  have valid := Date.isValid_ofDayNumber (time.seconds / secondsPerDay : Nat)
  have number := Date.dayNumber_ofDayNumber (time.seconds / secondsPerDay : Nat)
  have limit := limit_eq time.form
  have reachable := time.reachable
  have positive : 0 < secondsPerDay := by decide
  have low : 1970 ≤ (Date.ofDayNumber (time.seconds / secondsPerDay : Nat)).year := by
    have start : Date.dayNumber ⟨1970, 1, 1⟩ = 0 := by decide
    rw [← Int.not_lt, Date.year_ofDayNumber_lt_iff, start]
    exact Int.not_lt.mpr (Int.natCast_nonneg _)
  have high : (Date.ofDayNumber (time.seconds / secondsPerDay : Nat)).year < endYear time.form := by
    rw [Date.year_ofDayNumber_lt_iff]
    simp only [secondsPerDay] at limit ⊢
    omega
  rw [content]
  generalize Date.ofDayNumber (time.seconds / secondsPerDay : Nat) = date at valid number low high
  rw [ofContent?_date valid low high (Nat.mod_lt _ positive), number, Int.toNat_natCast,
    Nat.div_add_mod']
  simp [ofSeconds?, reachable]

theorem length_digits (count value : Nat) : (digits count value).length = count := by
  induction count generalizing value with
  | zero => rfl
  | succ count ih => rw [digits, List.length_append, ih, List.length_singleton]

theorem length_content (time : Time) : time.content.length = time.form.yearDigits + 11 := by
  simp only [content, List.length_append, List.length_flatMap, length_digits]
  rfl

theorem length_encode_le (time : Time) : time.encode.length ≤ 21 := by
  have years : time.form.yearDigits ≤ 4 := by cases time.form <;> decide
  have content := time.length_content
  exact (Der.length_encode_le _ (content.le.trans (by rw [Der.maxLength]; omega))).trans (by omega)

theorem reads_as (time : Time) : Der.Reads (decodeAs time.form) time.encode time := by
  apply (Der.reads_tagged time.form.tag time.content).map
  intro rest
  simp [time.ofContent?_content]

theorem reads (time : Time) : Der.Reads decode time.encode time := by
  intro bound rest
  have content := time.reads_as bound rest
  have head : (time.encode ++ rest).head? = some time.form.tag.octet := Der.head?_encode _ _ _
  unfold decode
  cases form : time.form with
  | utc =>
      rw [form] at content head
      rw [if_pos head, content]
  | general =>
      rw [form] at content head
      have other : (time.encode ++ rest).head? ≠ some TimeForm.utc.tag.octet := by
        rw [head]
        decide
      rw [if_neg other, content]

/-! ## Written forms only -/

/-- What is read as a number are its decimal digits. -/
theorem eq_digits_of_number? {characters : Octets} {value : Nat}
    (known : number? characters = some value) : characters = digits characters.length value := by
  induction characters using List.reverseRecOn generalizing value with
  | nil => rfl
  | append_singleton front char ih =>
      simp only [number?, List.all_append, List.all_cons, List.all_nil, Bool.and_true,
        List.foldl_append, List.foldl_cons, List.foldl_nil, Option.ite_none_right_eq_some,
        Bool.and_eq_true, decide_eq_true_eq, Option.some.injEq] at known
      rcases known with ⟨⟨front_digits, low, high⟩, rfl⟩
      rw [UInt8.le_iff_toNat_le] at low high
      have lowest : (0x30 : UInt8).toNat = 0x30 := rfl
      have highest : (0x39 : UInt8).toNat = 0x39 := rfl
      have before := ih (if_pos front_digits)
      generalize front.foldl (fun value char => value * 10 + (char.toNat - 0x30)) 0 = number
        at before
      have quotient : (number * 10 + (char.toNat - 0x30)) / 10 = number := by omega
      have digit : 0x30 + (number * 10 + (char.toNat - 0x30)) % 10 = char.toNat := by omega
      rw [List.length_append, List.length_singleton, digits, quotient, digit, ← before,
        UInt8.ofNat_toNat]

/-- The digits of a year are those it is written with. -/
theorem digits_year (form : TimeForm) (written : Nat) :
    digits form.yearDigits (form.year written) = digits form.yearDigits written := by
  cases form with
  | utc =>
      have century : ∀ years, digits 2 (100 * years + written) = digits 2 written := by
        intro years
        have tens : (100 * years + written) / 10 % 10 = written / 10 % 10 := by omega
        have ones : (100 * years + written) % 10 = written % 10 := by omega
        simp only [digits, tens, ones]
      show digits 2 (if written < 50 then 2000 + written else 1900 + written) = digits 2 written
      split
      · exact century 20
      · exact century 19
  | general => rfl

/-- A written time is made of its fields. -/
theorem eq_fields {width : Nat} {characters : Octets} (long : characters.length = width + 11)
    (last : characters.getLast? = some zone) :
    characters = characters.take width ++
      ([0, 1, 2, 3, 4].flatMap (fun place => (characters.drop (width + 2 * place)).take 2) ++
        [zone]) := by
  have pair : ∀ place, characters.drop (width + 2 * place) =
      (characters.drop (width + 2 * place)).take 2 ++
        characters.drop (width + 2 * (place + 1)) := by
    intro place
    have next : characters.drop (width + 2 * (place + 1)) =
        (characters.drop (width + 2 * place)).drop 2 := by
      rw [List.drop_drop]
      rfl
    rw [next, List.take_append_drop]
  have final : characters.drop (width + 2 * 5) = [zone] := by
    rw [List.getLast?_eq_some_iff] at last
    rcases last with ⟨front, rfl⟩
    have short : front.length = width + 2 * 5 := by simpa using long
    rw [← short, List.drop_left]
  calc characters
      = characters.take width ++ characters.drop (width + 2 * 0) :=
        (List.take_append_drop width characters).symm
    _ = _ := by
        rw [pair 0, pair 1, pair 2, pair 3, pair 4, final]
        simp only [List.flatMap_cons, List.flatMap_nil, List.append_assoc, List.append_nil]

/-- The fields that are written for a second of a day. -/
theorem content_of_date {form : TimeForm} {date : Date} {number hours minutes seconds : Nat}
    (found : Date.ofDayNumber number = date) (inDay : hours < 24) (inHour : minutes < 60)
    (inMinute : seconds < 60)
    (reachable : number * secondsPerDay + hours * 3600 + minutes * 60 + seconds < form.limit) :
    content ⟨form, number * secondsPerDay + hours * 3600 + minutes * 60 + seconds, reachable⟩ =
      digits form.yearDigits date.year.toNat ++
        ([date.month, date.day, hours, minutes, seconds].flatMap (digits 2) ++ [zone]) := by
  have quotient : (number * secondsPerDay + hours * 3600 + minutes * 60 + seconds) /
      secondsPerDay = number := by
    simp only [secondsPerDay]
    omega
  have second : (number * secondsPerDay + hours * 3600 + minutes * 60 + seconds) %
      secondsPerDay = hours * 3600 + minutes * 60 + seconds := by
    simp only [secondsPerDay]
    omega
  have hour : (hours * 3600 + minutes * 60 + seconds) / 3600 = hours := by omega
  have minute : (hours * 3600 + minutes * 60 + seconds) / 60 % 60 = minutes := by omega
  have last : (hours * 3600 + minutes * 60 + seconds) % 60 = seconds := by omega
  simp only [content, quotient, second, found, hour, minute, last]

/-- A time is read only from what is written for it. -/
theorem content_of_ofContent? {form : TimeForm} {characters : Octets} {time : Time}
    (made : ofContent? form characters = some time) :
    time.form = form ∧ characters = time.content := by
  simp only [ofContent?, Option.ite_none_left_eq_some, not_or, not_not, Option.bind_eq_bind,
    Option.bind_eq_some_iff, Option.ite_none_right_eq_some] at made
  rcases made with ⟨⟨long, zoned⟩, written, writtenRead, month, monthRead, day, dayRead, hours,
    hoursRead, minutes, minutesRead, seconds, secondsRead, inRange, made⟩
  have two : ∀ place value, place < 5 →
      number? ((characters.drop (form.yearDigits + 2 * place)).take 2) = some value →
        (characters.drop (form.yearDigits + 2 * place)).take 2 = digits 2 value := by
    intro place value inside read
    have length : ((characters.drop (form.yearDigits + 2 * place)).take 2).length = 2 := by
      rw [List.length_take, List.length_drop]
      omega
    have written := eq_digits_of_number? read
    rwa [length] at written
  have width : (characters.take form.yearDigits).length = form.yearDigits :=
    List.length_take_of_le (by omega)
  have yearWritten := eq_digits_of_number? writtenRead
  rw [width, ← digits_year] at yearWritten
  simp only [Bool.and_eq_true, decide_eq_true_eq] at inRange
  rcases inRange with ⟨⟨⟨⟨valid, early⟩, hoursInDay⟩, minutesInHour⟩, secondsInMinute⟩
  simp only [ofSeconds?, Option.dite_none_right_eq_some, Option.some.injEq] at made
  rcases made with ⟨reachable, rfl⟩
  refine ⟨rfl, ?_⟩
  have later : (0 : Int) ≤ Date.dayNumber ⟨form.year written, month, day⟩ :=
    Date.dayNumber_monotone_year valid (Int.ofNat_le.mpr early)
  have date : Date.ofDayNumber (Date.dayNumber ⟨form.year written, month, day⟩).toNat =
      ⟨form.year written, month, day⟩ := by
    rw [Int.toNat_of_nonneg later, Date.ofDayNumber_dayNumber valid]
  rw [content_of_date date hoursInDay minutesInHour secondsInMinute, Int.toNat_natCast,
    ← yearWritten]
  conv_lhs => rw [eq_fields long zoned]
  simp only [List.flatMap_cons, List.flatMap_nil, two 0 month (by decide) monthRead,
    two 1 day (by decide) dayRead, two 2 hours (by decide) hoursRead,
    two 3 minutes (by decide) minutesRead, two 4 seconds (by decide) secondsRead]

theorem exact_as (form : TimeForm) {octets rest : Octets} {time : Time}
    (read : decodeAs form octets = some (time, rest)) : octets = time.encode ++ rest := by
  rcases Option.bind_eq_some_iff.mp read with ⟨⟨content, after⟩, element, read⟩
  rcases Option.bind_eq_some_iff.mp read with ⟨found, made, read⟩
  cases read
  rcases content_of_ofContent? made with ⟨rfl, rfl⟩
  exact Der.exact_tagged _ _ _ _ element

theorem exact : Der.Exact decode encode := by
  intro octets time rest read
  unfold decode at read
  split at read
  · exact exact_as .utc read
  · exact exact_as .general read

end Time

theorem Period.reads (period : Period) : Der.Reads decode period.encode period := by
  refine Der.Fills.nested (period.notBefore.reads.bind ?_)
  exact period.notAfter.reads.last rfl

theorem Period.complete_encode (period : Period) :
    Der.complete decode period.encode = some period := by
  have fields : (period.notBefore.encode ++ period.notAfter.encode).length ≤ 42 := by
    rw [List.length_append]
    exact Nat.add_le_add period.notBefore.length_encode_le period.notAfter.length_encode_le
  have whole := Der.length_encode_le Der.Tag.sequence (fields.trans (by decide))
  exact period.reads.complete (whole.trans ((Nat.add_le_add_right fields _).trans (by decide)))

theorem Period.exact : Der.Exact decode encode := by
  refine Der.Exact.nested fun octets period rest read => ?_
  rcases Option.bind_eq_some_iff.mp read with ⟨⟨notBefore, afterStart⟩, startRead, read⟩
  rcases Option.bind_eq_some_iff.mp read with ⟨⟨notAfter, afterEnd⟩, endRead, read⟩
  cases read
  rw [Time.exact _ _ _ startRead, Time.exact _ _ _ endRead, List.append_assoc]

end CertAuthority.X509
