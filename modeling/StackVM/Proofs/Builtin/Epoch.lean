import StackVM.Builtin.TimeFunction
import StackVM.Proofs.Calendar
import StackVM.Proofs.Number.Exact

/-! # Seconds since 1970 and objects of date and time

The object of a number of seconds is that of its moment, and an object of integers gives the seconds
back. The parts of a date and a time are limited to 32 bits when they are read, which keeps those that
exist and makes no other exist.
-/

namespace StackVM.Calendar

variable {d : Date} {t : Time} {n : ℤ}

section Limits

/-- The date with its parts limited to 32 bits. -/
def Date.limited (d : Date) : Date :=
  ⟨max (-0x80000000) (min 0x7fffffff d.year), min d.month 0xffffffff, min d.day 0xffffffff⟩

/-- The time with its parts limited to 32 bits. -/
def Time.limited (t : Time) : Time :=
  ⟨min t.hour 0xffffffff, min t.minute 0xffffffff, min t.second 0xffffffff⟩

private theorem Date.Exists.day_le_longest (exist : d.Exists) : d.day ≤ 31 := by
  have length := le_daysBeforeMonth_succ d.year exist.month_pos exist.month_le
  have last := exist.day_le
  unfold daysBeforeMonth at length
  omega

private theorem Date.limited_eq {e : Date} (either : e = d ∨ e = d.limited) (exist : e.Exists)
    (low : minYear ≤ e.year) (high : e.year ≤ maxYear) : d.limited = d := by
  have month := exist.month_le
  have day := exist.day_le_longest
  unfold minYear at low
  unfold maxYear at high
  have same : d.limited.year = d.year ∧ d.limited.month = d.month ∧ d.limited.day = d.day := by
    rcases either with rfl | rfl <;> simp only [Date.limited] at * <;> omega
  cases d
  exact Date.mk.injEq _ _ _ _ _ _ ▸ same

private theorem Time.limited_eq {u : Time} (either : u = t ∨ u = t.limited)
    (valid : u.isValid = true) :
    t.limited = t := by
  rw [Time.isValid_iff] at valid
  have same : t.limited.hour = t.hour ∧ t.limited.minute = t.minute ∧ t.limited.second = t.second := by
    rcases either with rfl | rfl <;> simp only [Time.limited] at * <;> omega
  cases t
  exact Time.mk.injEq _ _ _ _ _ _ ▸ same

private theorem epoch?_limited (d : Date) (t : Time) : epoch? d.limited t.limited = epoch? d t := by
  ext n
  constructor
  · intro epoch
    obtain ⟨exist, valid, low, high, -⟩ := epoch?_eq_some_iff.mp epoch
    rwa [Date.limited_eq (.inr rfl) exist low high, Time.limited_eq (.inr rfl) valid] at epoch
  · intro epoch
    obtain ⟨exist, valid, low, high, -⟩ := epoch?_eq_some_iff.mp epoch
    rwa [Date.limited_eq (.inl rfl) exist low high, Time.limited_eq (.inl rfl) valid]

end Limits

end StackVM.Calendar

namespace StackVM.Times

open Calendar (Date Time epoch? moment?)
open Number (IsInt)

variable {v : Value} {d : Date} {t : Time} {n : ℤ} {x : Float}

/-- An array of three integers. -/
def IsTriple (v : Value) (a b c : ℤ) : Prop :=
  ∃ x y z : Float, v = .arr [.num x, .num y, .num z] ∧ IsInt x a ∧ IsInt y b ∧ IsInt z c

/-- An object whose fields hold the integers of a date and a time. -/
structure HasFields (v : Value) (d : Date) (t : Time) : Prop where
  date : ∃ w, v.toRecord.get? "date" = some w ∧ IsTriple w d.day d.month d.year
  time : ∃ w, v.toRecord.get? "time" = some w ∧ IsTriple w t.hour t.minute t.second

private theorem word_eq {m : ℕ} (is : IsInt x m) :
    min (Number.toNat x) 0xffffffff = min m 0xffffffff := by
  rw [is.toNat]
  omega

theorem toEpoch_eq (fields : HasFields v d t) :
    toEpoch v = ((epoch? d t).map Value.ofInt).getD .null := by
  obtain ⟨_, date, day, month, year, rfl, isDay, isMonth, isYear⟩ := fields.date
  obtain ⟨_, time, hour, minute, second, rfl, isHour, isMinute, isSecond⟩ := fields.time
  have moment : epoch?
      ⟨Number.clampToInt (-0x80000000) 0x7fffffff year, min (Number.toNat month) 0xffffffff,
        min (Number.toNat day) 0xffffffff⟩
      ⟨min (Number.toNat hour) 0xffffffff, min (Number.toNat minute) 0xffffffff,
        min (Number.toNat second) 0xffffffff⟩ = epoch? d t := by
    rw [isYear.clampToInt, word_eq isMonth, word_eq isDay, word_eq isHour, word_eq isMinute,
      word_eq isSecond, ← Calendar.epoch?_limited d t]
    rfl
  rw [toEpoch, date, time, ← moment]
  rfl

private theorem fromEpoch_eq (moment : moment? n = some (d, t)) :
    fromEpoch n = .obj [("date", .arr [.ofNat d.day, .ofNat d.month, .ofInt d.year]),
      ("time", .arr [.ofNat t.hour, .ofNat t.minute, .ofNat t.second])] := by
  rw [fromEpoch, moment]

private theorem hasFields_fromEpoch (moment : moment? n = some (d, t)) :
    HasFields (fromEpoch n) d t := by
  obtain ⟨exist, valid, low, high, -⟩ :=
    Calendar.epoch?_eq_some_iff.mp (Calendar.moment?_eq_some_iff_epoch?.mp moment)
  obtain ⟨hour, minute, second⟩ := Calendar.Time.isValid_iff.mp valid
  have month := exist.month_le
  have day := exist.day_le_longest
  unfold Calendar.minYear at low
  unfold Calendar.maxYear at high
  rw [fromEpoch_eq moment]
  exact ⟨⟨_, rfl, _, _, _, rfl, Number.isInt_ofNat (by omega), Number.isInt_ofNat (by omega),
      Number.isInt_ofInt (by omega)⟩,
    ⟨_, rfl, _, _, _, rfl, Number.isInt_ofNat (by omega), Number.isInt_ofNat (by omega),
      Number.isInt_ofNat (by omega)⟩⟩

private theorem fromEpoch_ne_null_iff : fromEpoch n ≠ .null ↔ ∃ d t, moment? n = some (d, t) := by
  constructor
  · intro some
    cases moment : moment? n with
    | none =>
      rw [fromEpoch, moment] at some
      contradiction
    | some m => exact ⟨m.1, m.2, rfl⟩
  · rintro ⟨d, t, moment⟩
    rw [fromEpoch_eq moment]
    simp

/-- A moment gives its seconds back. -/
theorem toEpoch_fromEpoch (moment : moment? n = some (d, t)) : toEpoch (fromEpoch n) = .ofInt n := by
  rw [toEpoch_eq (hasFields_fromEpoch moment), Calendar.moment?_eq_some_iff_epoch?.mp moment]
  rfl

/-- Seconds within the range of moments are small enough for a number to be exact. -/
theorem toInt_of_moment (is : IsInt x n) (moment : moment? (Number.toInt x) = some (d, t)) :
    Number.toInt x = n := by
  obtain ⟨low, high, -, -⟩ := Calendar.moment?_eq_some_iff.mp moment
  rw [Number.toInt, is.clampToInt] at low high ⊢
  unfold Calendar.minEpoch at low
  unfold Calendar.maxEpoch at high
  unfold Number.minInt64 Number.maxInt64 at *
  omega

private theorem toInt_ofInt_of_moment (moment : moment? n = some (d, t)) :
    (Value.ofInt n).toInt = n := by
  obtain ⟨low, high, -, -⟩ := Calendar.moment?_eq_some_iff.mp moment
  unfold Calendar.minEpoch at low
  unfold Calendar.maxEpoch at high
  exact Value.toInt_ofInt (by omega)

private theorem fromEpoch_apply_ofInt (moment : moment? n = some (d, t)) :
    TimeFunction.fromEpoch.apply [.ofInt n] = { value := fromEpoch n } := by
  change Reply.mk (fromEpoch (Value.ofInt n).toInt) [] = _
  rw [toInt_ofInt_of_moment moment]

private theorem toEpoch_ne_null_iff (fields : HasFields v d t) :
    toEpoch v ≠ .null ↔ ∃ n, epoch? d t = some n := by
  rw [toEpoch_eq fields]
  cases epoch? d t with
  | none => simp
  | some n => simp [Value.ofInt]

/-- Seconds since 1970 and objects of date and time are inverse. Whenever a number of seconds has an
object, this holds a date that exists and a time of day and gives the number back. An object of integers
has a number of seconds exactly if its date exists, its time is one of the day and its year can be
represented, and then the number gives the same integers back. The seconds are counted from the start of
1970, and from one to the next clock and calendar go on by their rules. -/
theorem epoch_and_calendar_inverse :
    (∀ (x : Float) (n : ℤ), IsInt x n → (TimeFunction.fromEpoch.apply [.num x]).value ≠ .null →
      ∃ d t, HasFields (TimeFunction.fromEpoch.apply [.num x]).value d t ∧ d.Exists ∧
        (t.hour < 24 ∧ t.minute < 60 ∧ t.second < 60) ∧
        TimeFunction.toEpoch.apply [(TimeFunction.fromEpoch.apply [.num x]).value] =
          { value := .ofInt n } ∧
        (Value.ofInt n == .num x) = true) ∧
    (∀ (v : Value) (d : Date) (t : Time), HasFields v d t →
      ((TimeFunction.toEpoch.apply [v]).value ≠ .null ↔
        d.Exists ∧ (t.hour < 24 ∧ t.minute < 60 ∧ t.second < 60) ∧
          Calendar.minYear ≤ d.year ∧ d.year ≤ Calendar.maxYear) ∧
      ((TimeFunction.toEpoch.apply [v]).value ≠ .null →
        HasFields (TimeFunction.fromEpoch.apply [(TimeFunction.toEpoch.apply [v]).value]).value d t)) ∧
    moment? 0 = some (⟨1970, 1, 1⟩, ⟨0, 0, 0⟩) ∧
    (∀ (n : ℤ) (d : Date) (t : Time), moment? n = some (d, t) →
      HasFields (TimeFunction.fromEpoch.apply [.ofInt n]).value d t ∧
      (n < Calendar.maxEpoch → moment? (n + 1) = some (Calendar.tick d t))) := by
  refine ⟨fun x n is object => ?_, fun v d t fields => ⟨?_, fun number => ?_⟩, by decide,
    fun n d t moment => ⟨?_, Calendar.moment?_succ moment⟩⟩
  · change fromEpoch (Number.toInt x) ≠ .null at object
    obtain ⟨d, t, moment⟩ := fromEpoch_ne_null_iff.mp object
    have integer := toInt_of_moment is moment
    have epoch := Calendar.moment?_eq_some_iff_epoch?.mp moment
    obtain ⟨exist, valid, -⟩ := Calendar.epoch?_eq_some_iff.mp epoch
    refine ⟨d, t, hasFields_fromEpoch moment, exist, Calendar.Time.isValid_iff.mp valid, ?_, is.beq⟩
    change Reply.mk (toEpoch (fromEpoch (Number.toInt x))) [] = _
    rw [toEpoch_fromEpoch moment, integer]
  · change toEpoch v ≠ .null ↔ _
    simp only [toEpoch_ne_null_iff fields, Calendar.epoch?_eq_some_iff, Calendar.Time.isValid_iff]
    constructor
    · rintro ⟨n, exist, valid, low, high, -⟩
      exact ⟨exist, valid, low, high⟩
    · rintro ⟨exist, valid, low, high⟩
      exact ⟨_, exist, valid, low, high, rfl⟩
  · change toEpoch v ≠ .null at number
    obtain ⟨n, epoch⟩ := (toEpoch_ne_null_iff fields).mp number
    have moment := Calendar.moment?_eq_some_iff_epoch?.mpr epoch
    have result : (TimeFunction.toEpoch.apply [v]).value = .ofInt n := by
      change toEpoch v = .ofInt n
      rw [toEpoch_eq fields, epoch]
      rfl
    rw [result, fromEpoch_apply_ofInt moment]
    exact hasFields_fromEpoch moment
  · rw [fromEpoch_apply_ofInt moment]
    exact hasFields_fromEpoch moment

theorem epoch_and_calendar_inverse_leap_day :
    IsInt (Number.ofInt (-1)) (-1) ∧
    HasFields (TimeFunction.fromEpoch.apply [.ofInt (-1)]).value ⟨1969, 12, 31⟩ ⟨23, 59, 59⟩ ∧
    TimeFunction.toEpoch.apply [(TimeFunction.fromEpoch.apply [.num (Number.ofInt (-1))]).value] =
      { value := .ofInt (-1) } ∧
    HasFields (TimeFunction.fromEpoch.apply [.ofInt 951868799]).value ⟨2000, 2, 29⟩ ⟨23, 59, 59⟩ ∧
    (TimeFunction.toEpoch.apply
      [(TimeFunction.fromEpoch.apply [.ofInt 951868799]).value]).value ≠ .null := by
  have before : moment? (-1) = some (⟨1969, 12, 31⟩, ⟨23, 59, 59⟩) := by decide
  have leapDay : moment? 951868799 = some (⟨2000, 2, 29⟩, ⟨23, 59, 59⟩) := by decide
  have is : IsInt (Number.ofInt (-1)) (-1) := Number.isInt_ofInt (by decide)
  have object : (TimeFunction.fromEpoch.apply [.num (Number.ofInt (-1))]).value ≠ .null := by
    rw [← Value.ofInt, fromEpoch_apply_ofInt before]
    exact fromEpoch_ne_null_iff.mpr ⟨_, _, before⟩
  obtain ⟨seconds, objects, -, moments⟩ := epoch_and_calendar_inverse
  obtain ⟨_, _, -, -, -, back, -⟩ := seconds _ _ is object
  have fields := (moments _ _ _ leapDay).1
  have exist : Date.Exists ⟨2000, 2, 29⟩ := ⟨by decide, by decide, by decide, by decide⟩
  exact ⟨is, (moments _ _ _ before).1, back, fields,
    (objects _ _ _ fields).1.mpr ⟨exist, by decide, by decide, by decide⟩⟩

end StackVM.Times
