import Mathlib.Tactic.IntervalCases
import StackVM.Calendar

/-! # Day numbers and dates are inverse

A date is placed by the year that starts in March and the day of that year. `dayNumber` counts the
days before both, `dateOf` finds them again within an era of four hundred years. That the days are
those of the calendar is said by `dayNumber_next`: the day after a date has the next number. Since
the calendar repeats with every era, all day numbers are reached in this way.
-/

namespace StackVM.Calendar

variable {d : Date} {t : Time} {n : ℤ}

section Rules

theorem isLeapYear_iff (year : ℤ) :
    isLeapYear year = true ↔ year % 4 = 0 ∧ (year % 100 ≠ 0 ∨ year % 400 = 0) := by
  simp [isLeapYear]

/-- A day of the Gregorian calendar. -/
structure Date.Exists (d : Date) : Prop where
  month_pos : 1 ≤ d.month
  month_le : d.month ≤ 12
  day_pos : 1 ≤ d.day
  day_le : d.day ≤ daysInMonth d.year d.month

theorem daysInMonth_february (year : ℤ) :
    daysInMonth year 2 = if isLeapYear year = true then 29 else 28 := rfl

private theorem month_bounds {year : ℤ} {month : ℕ} (positive : 0 < daysInMonth year month) :
    1 ≤ month ∧ month ≤ 12 := by
  unfold daysInMonth at positive
  split at positive <;> omega

theorem isValid_iff : d.isValid = true ↔ d.Exists := by
  rw [Date.isValid, Bool.and_eq_true, decide_eq_true_eq, decide_eq_true_eq]
  constructor
  · rintro ⟨first, last⟩
    obtain ⟨low, high⟩ := month_bounds (lt_of_lt_of_le first last)
    exact ⟨low, high, first, last⟩
  · rintro ⟨-, -, first, last⟩
    exact ⟨first, last⟩

/-- The place of a month in the year that starts in March. -/
def shiftedMonth (month : ℕ) : ℕ := (month + 9) % 12

private theorem before_january : daysBeforeMonth (shiftedMonth 1) = 306 := by decide

private theorem before_february : daysBeforeMonth (shiftedMonth 2) = 337 := by decide

private theorem before_march : daysBeforeMonth (shiftedMonth 3) = 0 := by decide

/-- The formula for the days of the months before agrees with the table of their lengths, but for
February, which comes last. -/
theorem daysBeforeMonth_succ {month : ℕ} (year : ℤ) (low : 1 ≤ month) (high : month ≤ 12)
    (other : month ≠ 2) :
    daysBeforeMonth (shiftedMonth month + 1) =
      daysBeforeMonth (shiftedMonth month) + daysInMonth year month := by
  interval_cases month
  case «2» => contradiction
  all_goals rfl

theorem le_daysBeforeMonth_succ {month : ℕ} (year : ℤ) (low : 1 ≤ month) (high : month ≤ 12) :
    daysBeforeMonth (shiftedMonth month) + daysInMonth year month ≤
      daysBeforeMonth (shiftedMonth month + 1) := by
  by_cases february : month = 2
  · subst february
    rw [daysInMonth_february]
    split_ifs <;> decide
  · exact (daysBeforeMonth_succ year low high february).ge

end Rules

section March

/-- The year that starts in March and holds the date. -/
def Date.marchYear (d : Date) : ℤ := if d.month ≤ 2 then d.year - 1 else d.year

/-- Days from the first of March before the date. -/
def Date.marchDay (d : Date) : ℕ := daysBeforeMonth (shiftedMonth d.month) + d.day - 1

/-- Days from the first of March of the year zero to the first of March of a year. -/
def daysBeforeMarch (year : ℤ) : ℤ := 365 * year + year / 4 - year / 100 + year / 400

theorem dayNumber_eq (exist : d.Exists) :
    dayNumber d = daysBeforeMarch d.marchYear + d.marchDay - 719468 := by
  have first := exist.day_pos
  have number : dayNumber d = d.marchYear / 400 * 146097 + d.marchYear % 400 * 365 +
      d.marchYear % 400 / 4 - d.marchYear % 400 / 100 +
      ((daysBeforeMonth (shiftedMonth d.month) : ℤ) + d.day - 1) - 719468 := rfl
  rw [number, daysBeforeMarch, Date.marchDay]
  omega

private theorem daysBeforeMarch_succ (year : ℤ) :
    daysBeforeMarch year = daysBeforeMarch (year - 1) + if isLeapYear year = true then 366 else 365 := by
  have leap := isLeapYear_iff year
  unfold daysBeforeMarch
  split_ifs with is
  · rw [leap] at is
    omega
  · rw [leap] at is
    omega

/-- The date of a day of a year that starts in March. -/
def marchDate (year : ℤ) (day : ℕ) : Date :=
  let shiftedMonth := (5 * day + 2) / 153
  let month := if shiftedMonth < 10 then shiftedMonth + 3 else shiftedMonth - 9
  { year := year + if month ≤ 2 then 1 else 0
    month
    day := day - daysBeforeMonth shiftedMonth + 1 }

theorem Date.Exists.marchDay_bounds (exist : d.Exists) :
    daysBeforeMonth (shiftedMonth d.month) ≤ d.marchDay ∧
      d.marchDay < daysBeforeMonth (shiftedMonth d.month + 1) := by
  have most := le_daysBeforeMonth_succ d.year exist.month_pos exist.month_le
  have first := exist.day_pos
  have last := exist.day_le
  unfold Date.marchDay
  omega

private theorem Date.Exists.marchDay_le (exist : d.Exists) :
    d.marchDay ≤ 365 ∧ (d.marchDay = 365 → isLeapYear (d.marchYear + 1) = true) := by
  have low := exist.month_pos
  have high := exist.month_le
  by_cases february : d.month = 2
  · have last := exist.day_le
    rw [february, daysInMonth_february] at last
    have year : d.marchYear + 1 = d.year := by
      rw [Date.marchYear, if_pos february.le]
      omega
    rw [year, Date.marchDay, february, before_february]
    split_ifs at last with leap
    · exact ⟨by omega, fun _ => leap⟩
    · omega
  · have bounds := exist.marchDay_bounds
    have earlier : shiftedMonth d.month + 1 ≤ 11 := by
      unfold shiftedMonth
      omega
    unfold daysBeforeMonth at bounds
    omega

private theorem Date.Exists.marchDate_eq (exist : d.Exists) :
    marchDate d.marchYear d.marchDay = d := by
  have low := exist.month_pos
  have high := exist.month_le
  have first := exist.day_pos
  have shifted : (5 * d.marchDay + 2) / 153 = shiftedMonth d.month := by
    have bounds := exist.marchDay_bounds
    unfold daysBeforeMonth at bounds
    omega
  have month : (if shiftedMonth d.month < 10 then shiftedMonth d.month + 3
      else shiftedMonth d.month - 9) = d.month := by
    unfold shiftedMonth
    split_ifs <;> omega
  have year : (d.marchYear + if d.month ≤ 2 then 1 else 0) = d.year := by
    unfold Date.marchYear
    omega
  have day : d.marchDay - daysBeforeMonth (shiftedMonth d.month) + 1 = d.day := by
    unfold Date.marchDay
    omega
  simp only [marchDate, shifted, month, year, day]

end March

section Eras

/-- The year of an era in which a day of the era lies. -/
def yearOfEra (day : ℕ) : ℕ := (day - day / 1460 + day / 36524 - day / 146096) / 365

/-- Years of an era are counted by centuries, leap cycles within them and years within those. -/
theorem yearOfEra_cycles {c q y r : ℕ} (century : c ≤ 3) (cycle : q ≤ 24) (year : y ≤ 3)
    (inYear : r ≤ 365) (leap : r = 365 → y = 3 ∧ (q < 24 ∨ c = 3)) :
    yearOfEra (36524 * c + 1461 * q + 365 * y + r) = 100 * c + 4 * q + y := by
  by_cases last : c = 3 ∧ q = 24 ∧ y = 3 ∧ r = 365
  · obtain ⟨rfl, rfl, rfl, rfl⟩ := last
    rfl
  · have centuries : (36524 * c + 1461 * q + 365 * y + r) / 36524 = c := by omega
    have eras : (36524 * c + 1461 * q + 365 * y + r) / 146096 = 0 := by omega
    -- The leap days of the era so far and the days of the current cycle, beyond cycles of 1460 days.
    by_cases inCycle : 24 * c + q + 365 * y + r < 1460
    · have cycles : (36524 * c + 1461 * q + 365 * y + r) / 1460 = 25 * c + q := by omega
      rw [yearOfEra, centuries, eras, cycles]
      omega
    · have cycles : (36524 * c + 1461 * q + 365 * y + r) / 1460 = 25 * c + q + 1 := by omega
      rw [yearOfEra, centuries, eras, cycles]
      omega

private theorem yearOfEra_eq {y r : ℕ} (inEra : y < 400) (inYear : r ≤ 365)
    (leap : r = 365 → isLeapYear (y + 1) = true) :
    yearOfEra (365 * y + y / 4 - y / 100 + r) = y := by
  simp only [isLeapYear_iff] at leap
  have cycles := yearOfEra_cycles (c := y / 100) (q := y % 100 / 4) (y := y % 4) (r := r)
    (by omega) (by omega) (by omega) inYear (by omega)
  have day : 36524 * (y / 100) + 1461 * (y % 100 / 4) + 365 * (y % 4) + r =
      365 * y + y / 4 - y / 100 + r := by
    omega
  rw [day] at cycles
  omega

private theorem dateOf_eq {year : ℤ} {day : ℕ} (inYear : day ≤ 365)
    (leap : day = 365 → isLeapYear (year + 1) = true)
    (number : n = daysBeforeMarch year + day - 719468) : dateOf n = marchDate year day := by
  obtain ⟨y, inEra, place⟩ : ∃ y : ℕ, y < 400 ∧ year = year / 400 * 400 + y :=
    ⟨(year % 400).toNat, by omega, by omega⟩
  have leapInEra : day = 365 → isLeapYear (y + 1) = true := by
    simp only [isLeapYear_iff] at leap ⊢
    omega
  have split : n + 719468 = year / 400 * 146097 + (365 * y + y / 4 - y / 100 + day : ℕ) := by
    rw [number, daysBeforeMarch]
    omega
  have short : 365 * y + y / 4 - y / 100 + day < 146097 := by
    simp only [isLeapYear_iff] at leapInEra
    omega
  have era : (n + 719468) / 146097 = year / 400 := by omega
  have rest : ((n + 719468) % 146097).toNat = 365 * y + y / 4 - y / 100 + day := by omega
  have parts : dateOf n = marchDate (yearOfEra ((n + 719468) % 146097).toNat +
      (n + 719468) / 146097 * 400) (((n + 719468) % 146097).toNat -
        (365 * yearOfEra ((n + 719468) % 146097).toNat +
          yearOfEra ((n + 719468) % 146097).toNat / 4 -
          yearOfEra ((n + 719468) % 146097).toNat / 100)) := rfl
  rw [parts, era, rest, yearOfEra_eq inEra inYear leapInEra, Nat.add_sub_cancel_left, add_comm, ← place]

theorem dateOf_dayNumber (exist : d.Exists) : dateOf (dayNumber d) = d := by
  obtain ⟨inYear, leap⟩ := exist.marchDay_le
  rw [dateOf_eq inYear leap (dayNumber_eq exist), exist.marchDate_eq]

end Eras

section Succession

/-- The day after a date. -/
def Date.next (d : Date) : Date :=
  if d.day < daysInMonth d.year d.month then { d with day := d.day + 1 }
  else if d.month < 12 then ⟨d.year, d.month + 1, 1⟩
  else ⟨d.year + 1, 1, 1⟩

private theorem exists_first {month : ℕ} (year : ℤ) (low : 1 ≤ month) (high : month ≤ 12) :
    Date.Exists ⟨year, month, 1⟩ := by
  refine ⟨low, high, le_rfl, ?_⟩
  dsimp only
  by_cases february : month = 2
  · rw [february, daysInMonth_february]
    split_ifs <;> decide
  · have length := daysBeforeMonth_succ year low high february
    unfold daysBeforeMonth at length
    omega

theorem Date.Exists.next (exist : d.Exists) : d.next.Exists := by
  have low := exist.month_pos
  have high := exist.month_le
  unfold Date.next
  split_ifs with inMonth inYear
  · exact ⟨low, high, Nat.le_add_left 1 _, inMonth⟩
  · exact exists_first d.year (by omega) (by omega)
  · exact exists_first (d.year + 1) (by decide) (by decide)

/-- Only at the end of February does the year that starts in March change. -/
theorem Date.Exists.next_march (exist : d.Exists)
    (within : d.month = 2 → d.day < daysInMonth d.year d.month) :
    d.next.marchYear = d.marchYear ∧ d.next.marchDay = d.marchDay + 1 := by
  have low := exist.month_pos
  have high := exist.month_le
  have first := exist.day_pos
  have last := exist.day_le
  unfold Date.next
  split_ifs with inMonth inYear
  · simp only [Date.marchYear, Date.marchDay, true_and]
    omega
  · have length := daysBeforeMonth_succ d.year low high (by omega)
    have following : shiftedMonth (d.month + 1) = shiftedMonth d.month + 1 := by
      unfold shiftedMonth
      omega
    have same : d.month + 1 ≤ 2 ↔ d.month ≤ 2 := by omega
    simp only [Date.marchYear, Date.marchDay, following, length, same, true_and]
    omega
  · have length := daysBeforeMonth_succ d.year low high (by omega)
    have following : shiftedMonth 1 = shiftedMonth d.month + 1 := by
      unfold shiftedMonth
      omega
    simp only [Date.marchYear, Date.marchDay, following, length]
    omega

/-- The day after a date has the next number. -/
theorem dayNumber_next (exist : d.Exists) : dayNumber d.next = dayNumber d + 1 := by
  rw [dayNumber_eq exist.next, dayNumber_eq exist]
  by_cases within : d.month = 2 → d.day < daysInMonth d.year d.month
  · obtain ⟨year, day⟩ := exist.next_march within
    rw [year, day]
    omega
  · rw [Classical.not_imp] at within
    obtain ⟨february, ended⟩ := within
    have march : d.next = ⟨d.year, 3, 1⟩ := by
      rw [Date.next, if_neg ended, february, if_pos (by decide)]
    have last : d.day = if isLeapYear d.year = true then 29 else 28 := by
      rw [← daysInMonth_february, ← february]
      exact le_antisymm exist.day_le (not_lt.mp ended)
    have before : d.marchYear = d.year - 1 ∧ d.marchDay = 337 + d.day - 1 := by
      rw [Date.marchYear, Date.marchDay, february, before_february]
      exact ⟨rfl, rfl⟩
    have after : d.next.marchYear = d.year ∧ d.next.marchDay = 0 := by
      rw [march, Date.marchYear, Date.marchDay, before_march]
      exact ⟨rfl, rfl⟩
    rw [before.1, before.2, after.1, after.2, daysBeforeMarch_succ, last]
    split_ifs <;> omega

/-- Every four hundred years the calendar repeats. -/
theorem daysInMonth_add_eras (year : ℤ) (month : ℕ) (k : ℤ) :
    daysInMonth (year + 400 * k) month = daysInMonth year month := by
  have leap : isLeapYear (year + 400 * k) = isLeapYear year := by
    rw [Bool.eq_iff_iff, isLeapYear_iff, isLeapYear_iff]
    omega
  unfold daysInMonth
  rw [leap]

private theorem Date.Exists.add_eras (exist : d.Exists) (k : ℤ) :
    Date.Exists { d with year := d.year + 400 * k } := by
  obtain ⟨low, high, first, last⟩ := exist
  exact ⟨low, high, first, by rwa [daysInMonth_add_eras]⟩

private theorem dayNumber_add_eras (exist : d.Exists) (k : ℤ) :
    dayNumber { d with year := d.year + 400 * k } = dayNumber d + 146097 * k := by
  rw [dayNumber_eq (exist.add_eras k), dayNumber_eq exist]
  simp only [Date.marchYear, Date.marchDay, daysBeforeMarch]
  split_ifs <;> omega

private theorem exists_dayNumber (n : ℤ) : ∃ d : Date, d.Exists ∧ dayNumber d = n := by
  have natural : ∀ k : ℕ, ∃ d : Date, d.Exists ∧ dayNumber d = k := by
    intro k
    induction k with
    | zero => exact ⟨⟨1970, 1, 1⟩, ⟨by decide, by decide, by decide, by decide⟩, by decide⟩
    | succ k ih =>
      obtain ⟨d, exist, number⟩ := ih
      refine ⟨d.next, exist.next, ?_⟩
      rw [dayNumber_next exist, number]
      push_cast
      rfl
  obtain ⟨d, exist, number⟩ := natural (n % 146097).toNat
  refine ⟨_, exist.add_eras (n / 146097), ?_⟩
  rw [dayNumber_add_eras exist, number]
  omega

private theorem exists_dateOf (n : ℤ) : (dateOf n).Exists := by
  obtain ⟨d, exist, rfl⟩ := exists_dayNumber n
  rwa [dateOf_dayNumber exist]

private theorem dayNumber_dateOf (n : ℤ) : dayNumber (dateOf n) = n := by
  obtain ⟨d, exist, rfl⟩ := exists_dayNumber n
  rw [dateOf_dayNumber exist]

end Succession

section Years

private theorem daysBeforeMarch_add_le {early late : ℤ} (less : early < late) :
    daysBeforeMarch early + 365 ≤ daysBeforeMarch late := by
  unfold daysBeforeMarch
  omega

private theorem daysBeforeMarch_mono {early late : ℤ} (le : early ≤ late) :
    daysBeforeMarch early ≤ daysBeforeMarch late := by
  rcases le.eq_or_lt with rfl | less
  · exact le_rfl
  · have step := daysBeforeMarch_add_le less
    omega

/-- The years are told apart by the first of January. -/
theorem year_lt_iff (exist : d.Exists) (year : ℤ) :
    d.year < year ↔ dayNumber d < dayNumber ⟨year, 1, 1⟩ := by
  have low := exist.month_pos
  have high := exist.month_le
  have bounds := exist.marchDay_bounds
  have most := exist.marchDay_le.1
  have january : Date.marchDay ⟨year, 1, 1⟩ = 306 := by
    rw [Date.marchDay, before_january]
    rfl
  have before : Date.marchYear ⟨year, 1, 1⟩ = year - 1 := rfl
  rw [dayNumber_eq exist, dayNumber_eq (exists_first year (by decide) (by decide)), before, january]
  unfold Date.marchYear daysBeforeMonth shiftedMonth at *
  split_ifs with early
  · constructor
    · intro less
      have step := daysBeforeMarch_add_le (sub_lt_sub_right less 1)
      omega
    · contrapose!
      intro le
      have step := daysBeforeMarch_mono (sub_le_sub_right le 1)
      omega
  · constructor
    · intro less
      have step := daysBeforeMarch_mono (Int.le_sub_one_of_lt less)
      omega
    · contrapose!
      intro le
      have step := daysBeforeMarch_add_le (Int.sub_one_lt_of_le le)
      omega

end Years

section Moments

theorem Time.isValid_iff : t.isValid = true ↔ t.hour < 24 ∧ t.minute < 60 ∧ t.second < 60 := by
  simp [Time.isValid, and_assoc]

private theorem timeOf_seconds (valid : t.isValid = true) : timeOf t.seconds = t := by
  obtain ⟨hour, minute, second⟩ := Time.isValid_iff.mp valid
  have parts : t.seconds / 3600 = t.hour ∧ t.seconds / 60 % 60 = t.minute ∧
      t.seconds % 60 = t.second := by
    unfold Time.seconds
    omega
  rw [timeOf, parts.1, parts.2.1, parts.2.2]

private theorem seconds_timeOf (k : ℕ) : (timeOf k).seconds = k := by
  simp only [Time.seconds, timeOf]
  omega

private theorem seconds_lt (valid : t.isValid = true) : t.seconds < 86400 := by
  obtain ⟨hour, minute, second⟩ := Time.isValid_iff.mp valid
  unfold Time.seconds
  omega

private theorem isValid_timeOf {k : ℕ} (inDay : k < 86400) : (timeOf k).isValid = true := by
  rw [Time.isValid_iff]
  simp only [timeOf]
  omega

theorem epoch?_eq_some_iff : epoch? d t = some n ↔
    d.Exists ∧ t.isValid = true ∧ minYear ≤ d.year ∧ d.year ≤ maxYear ∧
      dayNumber d * 86400 + t.seconds = n := by
  unfold epoch?
  split_ifs with condition
  · simp only [Bool.and_eq_true, decide_eq_true_eq, isValid_iff] at condition
    simp [condition]
  · simp only [Bool.and_eq_true, decide_eq_true_eq, isValid_iff] at condition
    simp only [false_iff]
    tauto

theorem moment?_eq_some_iff : moment? n = some (d, t) ↔
    minEpoch ≤ n ∧ n ≤ maxEpoch ∧ dateOf (n / 86400) = d ∧ timeOf (n % 86400).toNat = t := by
  unfold moment?
  split_ifs with range
  · simp only [Bool.and_eq_true, decide_eq_true_eq] at range
    simp [range]
  · simp only [Bool.and_eq_true, decide_eq_true_eq] at range
    simp only [false_iff]
    tauto

/-- The first and the last second are those of the first and the last year. -/
theorem year_bounds_iff (exist : d.Exists) (valid : t.isValid = true) :
    minYear ≤ d.year ∧ d.year ≤ maxYear ↔
      minEpoch ≤ dayNumber d * 86400 + t.seconds ∧ dayNumber d * 86400 + t.seconds ≤ maxEpoch := by
  have first : dayNumber ⟨minYear, 1, 1⟩ = -96465292 := by decide
  have last : dayNumber ⟨maxYear + 1, 1, 1⟩ = 95026237 := by decide
  have low := year_lt_iff exist minYear
  have high := year_lt_iff exist (maxYear + 1)
  have inDay := seconds_lt valid
  rw [first] at low
  rw [last] at high
  unfold minEpoch maxEpoch
  omega

/-- Moments and seconds are in one-to-one correspondence. -/
theorem moment?_eq_some_iff_epoch? : moment? n = some (d, t) ↔ epoch? d t = some n := by
  rw [moment?_eq_some_iff, epoch?_eq_some_iff]
  constructor
  · rintro ⟨low, high, rfl, rfl⟩
    have exist := exists_dateOf (n / 86400)
    have valid : (timeOf (n % 86400).toNat).isValid = true := isValid_timeOf (by omega)
    have number : dayNumber (dateOf (n / 86400)) * 86400 + (timeOf (n % 86400).toNat).seconds = n := by
      rw [dayNumber_dateOf, seconds_timeOf]
      omega
    obtain ⟨first, last⟩ := (year_bounds_iff exist valid).mpr (by rw [number]; exact ⟨low, high⟩)
    exact ⟨exist, valid, first, last, number⟩
  · rintro ⟨exist, valid, first, last, rfl⟩
    have inDay := seconds_lt valid
    obtain ⟨low, high⟩ := (year_bounds_iff exist valid).mp ⟨first, last⟩
    have day : (dayNumber d * 86400 + t.seconds) / 86400 = dayNumber d := by omega
    have rest : ((dayNumber d * 86400 + t.seconds) % 86400).toNat = t.seconds := by omega
    exact ⟨low, high, by rw [day, dateOf_dayNumber exist], by rw [rest, timeOf_seconds valid]⟩

/-- The moment one second later. -/
def tick (d : Date) (t : Time) : Date × Time :=
  if t.second < 59 then (d, ⟨t.hour, t.minute, t.second + 1⟩)
  else if t.minute < 59 then (d, ⟨t.hour, t.minute + 1, 0⟩)
  else if t.hour < 23 then (d, ⟨t.hour + 1, 0, 0⟩)
  else (d.next, ⟨0, 0, 0⟩)

private theorem tick_spec (exist : d.Exists) (valid : t.isValid = true) :
    (tick d t).1.Exists ∧ (tick d t).2.isValid = true ∧
      dayNumber (tick d t).1 * 86400 + (tick d t).2.seconds = dayNumber d * 86400 + t.seconds + 1 := by
  obtain ⟨hour, minute, second⟩ := Time.isValid_iff.mp valid
  unfold tick
  simp only [Time.isValid_iff]
  split_ifs with inMinute inHour inDay <;> simp only [Time.seconds]
  · exact ⟨exist, by omega⟩
  · exact ⟨exist, by omega⟩
  · exact ⟨exist, by omega⟩
  · rw [dayNumber_next exist]
    exact ⟨exist.next, by omega⟩

/-- From second to second the moments follow each other as a clock and the calendar have them. -/
theorem moment?_succ (moment : moment? n = some (d, t)) (before : n < maxEpoch) :
    moment? (n + 1) = some (tick d t) := by
  obtain ⟨low, -, -, -⟩ := moment?_eq_some_iff.mp moment
  rw [moment?_eq_some_iff_epoch?, epoch?_eq_some_iff] at moment
  obtain ⟨exist, valid, -, -, rfl⟩ := moment
  obtain ⟨exist', valid', number⟩ := tick_spec exist valid
  obtain ⟨first, last⟩ := (year_bounds_iff exist' valid').mpr (by omega)
  exact moment?_eq_some_iff_epoch?.mpr
    (epoch?_eq_some_iff.mpr ⟨exist', valid', first, last, number⟩)

end Moments

end StackVM.Calendar
