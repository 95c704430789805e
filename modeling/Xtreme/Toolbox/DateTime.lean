import Mathlib.Data.Nat.Notation
import Mathlib.Tactic.IntervalCases
import Xtreme.Library.Settling

/-! Dates and timestamps (`lib/datetime/datetime.c`). A computation stops where a value leaves the
range of its C type or an index that of its table: for `int` the language leaves open what follows. -/
namespace Xtreme.Toolbox
open Xtreme.Library

/-- A value that is not negative, in a type with so many bits for it. -/
def fits (bits value : Nat) : Option Nat := if value < 2 ^ bits then some value else none

def u8 (value : Nat) : Option Nat := fits 8 value
def u16 (value : Nat) : Option Nat := fits 16 value
def u32 (value : Nat) : Option Nat := fits 32 value
def int (value : Nat) : Option Nat := fits 31 value

structure DateTime where
  hour : Nat
  minute : Nat
  second : Nat
  day : Nat
  month : Nat
  year : Nat
  weekday : Nat
  deriving DecidableEq, Repr

def secondsPerMinute : Nat := 60
def secondsPerHour : Nat := secondsPerMinute * 60
def secondsPerDay : Nat := secondsPerHour * 24
def epochStartYear : Nat := 1970

def datetimeDaysPerMonth (leapYear : Bool) : List Nat :=
  [31, if leapYear then 29 else 28, 31, 30, 31, 30, 31, 31, 30, 31, 30, 31]

def datetimeIsLeapYear (year : Nat) : Bool := (year % 4 = 0 ∧ year % 100 ≠ 0) ∨ year % 400 = 0

def datetimeGetDaysPerYear (year : Nat) : Nat := if datetimeIsLeapYear year then 366 else 365

def datetimeGetDaysPerMonth (leapYear : Bool) (month : Nat) : Option Nat :=
  if month = 0 then none else (datetimeDaysPerMonth leapYear)[month - 1]?

def countYears : (left y years leapYears : Nat) → Option (Nat × Nat)
  | 0, _, years, leapYears => some (years, leapYears)
  | left + 1, y, years, leapYears => do
    let next ← u16 (y + 1)
    if datetimeIsLeapYear y then countYears left next years (← u8 (leapYears + 1))
    else countYears left next (← u8 (years + 1)) leapYears

def addMonths (leapYear : Bool) : (left m timestamp : Nat) → Option Nat
  | 0, _, timestamp => some timestamp
  | left + 1, m, timestamp => do
    let seconds ← int ((← datetimeGetDaysPerMonth leapYear m) * secondsPerDay)
    addMonths leapYear left (← u8 (m + 1)) (← u32 (timestamp + seconds))

def datetimeDatetimeToTimestamp (datetime : DateTime) : Option Nat := do
  let (years, leapYears) ← countYears (datetime.year - epochStartYear) epochStartYear 0 0
  let days ← int ((← int (years * 365)) + (← int (leapYears * 366)))
  let timestamp ← u32 (← int (days * secondsPerDay))
  let timestamp ← addMonths (datetimeIsLeapYear datetime.year) (datetime.month - 1) 1 timestamp
  let days ← if datetime.day = 0 then none else some (datetime.day - 1)
  let timestamp ← u32 (timestamp + (← int (days * secondsPerDay)))
  let timestamp ← u32 (timestamp + (← int (datetime.hour * secondsPerHour)))
  let timestamp ← u32 (timestamp + (← int (datetime.minute * secondsPerMinute)))
  u32 (timestamp + datetime.second)

def yearLoop : (fuel days year : Nat) → Option (Nat × Nat)
  | 0, _, _ => none
  | fuel + 1, days, year =>
    if datetimeGetDaysPerYear year ≤ days then
      (u16 (year + 1)).bind (yearLoop fuel (days - datetimeGetDaysPerYear year))
    else some (days, year)

def monthLoop (leapYear : Bool) : (fuel days month : Nat) → Option (Nat × Nat)
  | 0, _, _ => none
  | fuel + 1, days, month =>
    (datetimeGetDaysPerMonth leapYear month).bind fun count =>
      if count ≤ days then (u8 (month + 1)).bind (monthLoop leapYear fuel (days - count)) else some (days, month)

def datetimeTimestampToDatetime (fuel timestamp : Nat) : Option DateTime := do
  let days := timestamp / secondsPerDay
  let secondsInDay := timestamp % secondsPerDay
  let weekday ← u8 ((← u32 (days + 3)) % 7 + 1)
  let (days, year) ← yearLoop fuel days epochStartYear
  let (days, month) ← monthLoop (datetimeIsLeapYear year) fuel days 1
  let day ← u8 (← u32 (days + 1))
  let hour ← u8 (secondsInDay / secondsPerHour)
  let minute ← u8 (secondsInDay % secondsPerHour / secondsPerMinute)
  let second ← u8 (secondsInDay % secondsPerMinute)
  some ⟨hour, minute, second, day, month, year, weekday⟩

def daysOfYears : Nat → Nat
  | 0 => 0
  | years + 1 => daysOfYears years + datetimeGetDaysPerYear (epochStartYear + years)

def daysOfMonths (leapYear : Bool) (months : Nat) : Nat := ((datetimeDaysPerMonth leapYear).take months).sum

namespace DateTime

/-- The days from the start of the epoch to the date. -/
def dayNumber (datetime : DateTime) : Nat :=
  daysOfYears (datetime.year - epochStartYear) +
    daysOfMonths (datetimeIsLeapYear datetime.year) (datetime.month - 1) + (datetime.day - 1)

def secondOfDay (datetime : DateTime) : Nat :=
  datetime.hour * secondsPerHour + datetime.minute * secondsPerMinute + datetime.second

/-- An existing date and time since the start of the epoch, a Thursday (4), with its weekday. -/
structure Right (datetime : DateTime) : Prop where
  epoch : epochStartYear ≤ datetime.year
  month : 1 ≤ datetime.month ∧ datetime.month ≤ 12
  day : 1 ≤ datetime.day ∧ ∃ count ∈ datetimeGetDaysPerMonth (datetimeIsLeapYear datetime.year) datetime.month,
    datetime.day ≤ count
  time : datetime.hour < 24 ∧ datetime.minute < 60 ∧ datetime.second < 60
  weekday : datetime.weekday = (datetime.dayNumber + 3) % 7 + 1

end DateTime

theorem fits_of_lt {bits value : Nat} (inside : value < 2 ^ bits) : fits bits value = some value := if_pos inside

theorem bind_of_some {α β : Type} {value : Option α} {next : α → Option β} {result : α} (ends : value = some result) :
    (value >>= next) = next result := by
  rw [ends]
  rfl

theorem daysPerYear_bounds (year : Nat) : 365 ≤ datetimeGetDaysPerYear year ∧ datetimeGetDaysPerYear year ≤ 366 := by
  rw [datetimeGetDaysPerYear]
  split <;> decide

theorem daysOfYears_lower (years : Nat) : 365 * years ≤ daysOfYears years := by
  induction years with
  | zero => exact Nat.le_refl _
  | succ years ih =>
    have year := (daysPerYear_bounds (epochStartYear + years)).1
    rw [daysOfYears]
    omega

theorem daysOfYears_mono {years more : Nat} (le : years ≤ more) : daysOfYears years ≤ daysOfYears more := by
  induction more, le using Nat.le_induction with
  | base => exact Nat.le_refl _
  | succ more _ ih => exact Nat.le_trans ih (Nat.le_add_right _ _)

theorem daysOfYears_values :
    daysOfYears 68 = 24837 ∧ daysOfYears 69 = 25202 ∧ daysOfYears 137 = 50038 := by decide +kernel

theorem yearLoop_ends {fuel days year : Nat} (enough : days < fuel) (small : daysOfYears year + days < 60000) :
    ∃ rest last, yearLoop fuel days (epochStartYear + year) = some (rest, epochStartYear + last) ∧
      daysOfYears last + rest = daysOfYears year + days ∧ rest < datetimeGetDaysPerYear (epochStartYear + last) := by
  induction fuel generalizing days year with
  | zero => exact absurd enough (Nat.not_lt_zero _)
  | succ fuel next =>
    have lower := daysOfYears_lower year
    have positive := (daysPerYear_bounds (epochStartYear + year)).1
    rw [yearLoop]
    by_cases whole : datetimeGetDaysPerYear (epochStartYear + year) ≤ days
    · have step : daysOfYears (year + 1) = daysOfYears year + datetimeGetDaysPerYear (epochStartYear + year) := rfl
      have inside : epochStartYear + year + 1 < 2 ^ 16 := by
        rw [epochStartYear]
        omega
      obtain ⟨rest, last, ran, sum, less⟩ := @next (days - datetimeGetDaysPerYear (epochStartYear + year)) (year + 1)
        (by omega) (by omega)
      refine ⟨rest, last, ?_, by omega, less⟩
      rw [if_pos whole, u16, fits_of_lt inside]
      exact ran
    · exact ⟨days, year, if_neg whole, rfl, Nat.lt_of_not_le whole⟩

theorem daysOfMonths_succ : ∀ leapYear, ∀ months < 12, ∃ count ∈ datetimeGetDaysPerMonth leapYear (months + 1),
    daysOfMonths leapYear (months + 1) = daysOfMonths leapYear months + count ∧ count ≤ 31 := by
  decide

theorem daysOfMonths_mono {leapYear : Bool} {months more : Nat} (le : months ≤ more) :
    daysOfMonths leapYear months ≤ daysOfMonths leapYear more := by
  obtain ⟨rest, rfl⟩ := Nat.exists_eq_add_of_le le
  rw [daysOfMonths, daysOfMonths, List.take_add, List.sum_append]
  exact Nat.le_add_right _ _

theorem daysPerYear_months (year : Nat) : datetimeGetDaysPerYear year = daysOfMonths (datetimeIsLeapYear year) 12 := by
  rw [datetimeGetDaysPerYear]
  cases datetimeIsLeapYear year <;> rfl

theorem monthLoop_ends {leapYear : Bool} {fuel months days : Nat} (enough : 12 < fuel + months) (first : months ≤ 12)
    (inside : daysOfMonths leapYear months + days < daysOfMonths leapYear 12) :
    ∃ rest last, monthLoop leapYear fuel days (months + 1) = some (rest, last + 1) ∧
      daysOfMonths leapYear last + rest = daysOfMonths leapYear months + days ∧ last < 12 ∧
        ∃ count ∈ datetimeGetDaysPerMonth leapYear (last + 1), rest < count := by
  induction fuel generalizing days months with
  | zero => omega
  | succ fuel next =>
    have early : months < 12 := by
      refine Nat.lt_of_le_of_ne first ?_
      rintro rfl
      exact absurd inside (Nat.not_lt_of_le (Nat.le_add_right _ _))
    obtain ⟨count, counted, sum, -⟩ := daysOfMonths_succ leapYear months early
    rw [monthLoop, counted, Option.bind_some]
    by_cases whole : count ≤ days
    · have equal : daysOfMonths leapYear (months + 1) + (days - count) = daysOfMonths leapYear months + days := by omega
      obtain ⟨rest, last, ran, total, less⟩ := @next (months + 1) (days - count) (by omega) early (equal.trans_lt inside)
      refine ⟨rest, last, ?_, total.trans equal, less⟩
      rw [if_pos whole, u8, fits_of_lt (by omega)]
      exact ran
    · exact ⟨days, months, if_neg whole, rfl, early, count, counted, Nat.lt_of_not_le whole⟩

/-! ## Conversions -/

/-- A day belongs to one year, and to one month of it. -/
theorem place_unique {total : Nat → Nat} {place other days more : Nat} (mono : ∀ {few many}, few ≤ many → total few ≤ total many)
    (same : total place + days = total other + more) (less : total place + days < total (place + 1))
    (less' : total other + more < total (other + 1)) : place = other := by
  rcases Nat.lt_trichotomy place other with before | equal | after
  · have order : total (place + 1) ≤ total other := mono before
    omega
  · exact equal
  · have order : total (other + 1) ≤ total place := mono after
    omega

def DateTime.timestamp (datetime : DateTime) : Nat := datetime.dayNumber * secondsPerDay + datetime.secondOfDay

section
variable {datetime : DateTime}

theorem secondOfDay_lt (right : datetime.Right) : datetime.secondOfDay < secondsPerDay := by
  obtain ⟨hour, minute, second⟩ := right.time
  rw [DateTime.secondOfDay, secondsPerDay, secondsPerHour, secondsPerMinute]
  omega

theorem timestamp_div (right : datetime.Right) : datetime.timestamp / secondsPerDay = datetime.dayNumber := by
  rw [DateTime.timestamp, Nat.mul_comm, Nat.mul_add_div (by decide), Nat.div_eq_of_lt (secondOfDay_lt right), Nat.add_zero]

theorem timestamp_mod (right : datetime.Right) : datetime.timestamp % secondsPerDay = datetime.secondOfDay := by
  rw [DateTime.timestamp, Nat.mul_comm, Nat.mul_add_mod, Nat.mod_eq_of_lt (secondOfDay_lt right)]

theorem dayNumber_mk (hour minute second days months years weekday : Nat) :
    DateTime.dayNumber ⟨hour, minute, second, days + 1, months + 1, epochStartYear + years, weekday⟩ =
      daysOfYears years + (daysOfMonths (datetimeIsLeapYear (epochStartYear + years)) months + days) := by
  rw [DateTime.dayNumber, Nat.add_sub_cancel_left, Nat.add_sub_cancel, Nat.add_sub_cancel, Nat.add_assoc]

theorem DateTime.Right.parts (right : datetime.Right) : ∃ years months days, datetime =
      ⟨datetime.hour, datetime.minute, datetime.second, days + 1, months + 1, epochStartYear + years, datetime.weekday⟩ ∧
    months < 12 ∧ days < 31 ∧ daysOfMonths (datetimeIsLeapYear (epochStartYear + years)) months + days <
      daysOfMonths (datetimeIsLeapYear (epochStartYear + years)) (months + 1) := by
  obtain ⟨hour, minute, second, day, month, year, weekday⟩ := datetime
  obtain ⟨years, rfl⟩ := Nat.exists_eq_add_of_le right.epoch
  obtain ⟨months, rfl⟩ := Nat.exists_eq_add_of_le' right.month.1
  obtain ⟨days, rfl⟩ := Nat.exists_eq_add_of_le' right.day.1
  have last : months < 12 := right.month.2
  obtain ⟨count, counted, fewer⟩ := right.day.2
  obtain ⟨count', counted', sum, most⟩ := daysOfMonths_succ (datetimeIsLeapYear (epochStartYear + years)) months last
  obtain rfl : count' = count := Option.some.inj (counted'.symm.trans counted)
  replace fewer : days < count' := fewer
  exact ⟨years, months, days, rfl, last, fewer.trans_le most, (Nat.add_lt_add_left fewer _).trans_eq sum.symm⟩

theorem day_inside {year months days : Nat} (last : months < 12)
    (inside : daysOfMonths (datetimeIsLeapYear year) months + days < daysOfMonths (datetimeIsLeapYear year) (months + 1)) :
    daysOfMonths (datetimeIsLeapYear year) months + days < datetimeGetDaysPerYear year :=
  inside.trans_le ((daysOfMonths_mono last).trans_eq (daysPerYear_months year).symm)

theorem timestampToDatetime_settles (right : datetime.Right) (near : datetime.year ≤ 2106) :
    Settles (fun fuel => datetimeTimestampToDatetime fuel datetime.timestamp) datetime := by
  refine ⟨datetime.dayNumber + 14, fun fuel enough => ?_⟩
  obtain ⟨years, months, days, equal, last, short, inside⟩ := right.parts
  have weekday := right.weekday
  have time := right.time
  dsimp only
  rw [datetimeTimestampToDatetime, timestamp_div right, timestamp_mod right, DateTime.secondOfDay]
  have few : years ≤ 136 := by
    rw [equal] at near
    exact Nat.le_of_add_le_add_left near
  have small : daysOfYears (years + 1) < 60000 :=
    (daysOfYears_mono (Nat.succ_le_succ few)).trans_lt (by rw [daysOfYears_values.2.2]; decide)
  have number := congrArg DateTime.dayNumber equal
  rw [dayNumber_mk] at number
  rw [daysOfYears] at small
  generalize datetime.dayNumber = day at *
  have year' := day_inside last inside
  obtain ⟨rest, year, ran, whole, less⟩ := @yearLoop_ends fuel day 0 (by omega) (by rw [daysOfYears]; omega)
  rw [daysOfYears, Nat.zero_add, number] at whole
  obtain rfl := place_unique daysOfYears_mono whole (Nat.add_lt_add_left less _) (Nat.add_lt_add_left year' _)
  obtain rfl := Nat.add_left_cancel whole
  rw [daysPerYear_months] at year'
  obtain ⟨day', month, found, whole', _, count, counted, less'⟩ := @monthLoop_ends _ fuel 0 _ (by omega) (by omega)
    ((Nat.zero_add _).trans_lt year')
  obtain ⟨count', counted', sum, -⟩ := daysOfMonths_succ _ month ‹_›
  obtain rfl : count' = count := Option.some.inj (counted'.symm.trans counted)
  obtain rfl := place_unique daysOfMonths_mono (whole'.trans (Nat.zero_add _)) (by omega) inside
  obtain rfl := Nat.add_left_cancel (whole'.trans (Nat.zero_add _))
  replace ran : yearLoop fuel day epochStartYear = _ := ran
  rw [equal]
  generalize datetime.hour = hour, datetime.minute = minute, datetime.second = second, datetime.weekday = shown at *
  have hourEq : (hour * secondsPerHour + minute * secondsPerMinute + second) / secondsPerHour = hour := by
    rw [secondsPerHour, secondsPerMinute]
    omega
  have minuteEq : (hour * secondsPerHour + minute * secondsPerMinute + second) % secondsPerHour / secondsPerMinute = minute := by
    rw [secondsPerHour, secondsPerMinute]
    omega
  have secondEq : (hour * secondsPerHour + minute * secondsPerMinute + second) % secondsPerMinute = second := by
    rw [secondsPerHour, secondsPerMinute]
    omega
  simp (disch := omega) only [hourEq, minuteEq, secondEq, ran, found, u8, u32, fits_of_lt,
    Option.bind_eq_bind, Option.bind_some, weekday]

theorem timestamp_lt_iff (right : datetime.Right) : datetime.timestamp < 2177452800 ↔ datetime.year ≤ 2038 := by
  obtain ⟨years, months, days, equal, last, -, inside⟩ := right.parts
  replace inside := day_inside last inside
  have number := congrArg DateTime.dayNumber equal
  have year := congrArg DateTime.year equal
  rw [dayNumber_mk] at number
  replace year : datetime.year = 1970 + years := year
  have clock := secondOfDay_lt right
  rw [DateTime.timestamp]
  have day : secondsPerDay = 86400 := rfl
  constructor
  · intro early
    refine Decidable.byContradiction fun late => ?_
    have most : 25202 ≤ daysOfYears years :=
      daysOfYears_values.2.1.ge.trans (daysOfYears_mono (by omega))
    rw [day] at early
    omega
  · intro early
    have most : daysOfYears (years + 1) ≤ 25202 :=
      (daysOfYears_mono (by omega : years + 1 ≤ 69)).trans daysOfYears_values.2.1.le
    rw [daysOfYears] at most
    rw [day] at clock ⊢
    omega

end

theorem exists_right {timestamp : Nat} (small : timestamp < 2 ^ 32) :
    ∃ datetime : DateTime, datetime.Right ∧ datetime.timestamp = timestamp ∧ datetime.year ≤ 2106 := by
  have days : timestamp / secondsPerDay < 50000 := by
    rw [secondsPerDay, secondsPerHour, secondsPerMinute]
    omega
  obtain ⟨rest, year, _, whole, less⟩ := @yearLoop_ends _ (timestamp / secondsPerDay) 0 (Nat.lt_succ_self _)
    (by rw [daysOfYears]; omega)
  rw [daysPerYear_months] at less
  obtain ⟨day, months, _, sum, last, inside⟩ := @monthLoop_ends _ 13 0 rest (by decide) (by decide) ((Nat.zero_add _).trans_lt less)
  have time : ∃ hour minute second, (hour < 24 ∧ minute < 60 ∧ second < 60) ∧
      hour * secondsPerHour + minute * secondsPerMinute + second = timestamp % secondsPerDay := by
    refine ⟨timestamp % secondsPerDay / secondsPerHour, timestamp % secondsPerDay % secondsPerHour / secondsPerMinute,
      timestamp % secondsPerDay % secondsPerMinute, ?_⟩
    rw [secondsPerDay, secondsPerHour, secondsPerMinute]
    omega
  obtain ⟨hour, minute, second, time, clock⟩ := time
  have number := dayNumber_mk hour minute second day months year ((timestamp / secondsPerDay + 3) % 7 + 1)
  rw [sum.trans (Nat.zero_add rest), whole, daysOfYears, Nat.zero_add] at number
  refine ⟨⟨hour, minute, second, day + 1, months + 1, epochStartYear + year, (timestamp / secondsPerDay + 3) % 7 + 1⟩,
    ⟨Nat.le_add_right _ _, ⟨Nat.succ_pos months, last⟩, ⟨Nat.succ_pos day, ?_⟩, time, ?_⟩, ?_, ?_⟩
  · obtain ⟨count, counted, fewer⟩ := inside
    exact ⟨count, counted, fewer⟩
  · rw [number]
  · rw [DateTime.timestamp, number]
    exact (congrArg _ clock).trans (Nat.div_add_mod' timestamp secondsPerDay)
  · suffices early : year ≤ 136 from Nat.add_le_add_left early 1970
    refine Decidable.byContradiction fun late => ?_
    have most := daysOfYears_mono (Nat.lt_of_not_le late)
    have bound : 50000 < daysOfYears 137 := by
      rw [daysOfYears_values.2.2]
      decide
    rw [daysOfYears, Nat.zero_add] at whole
    exact absurd (bound.trans_le (most.trans (Nat.le_of_add_right_le whole.le))) (Nat.not_lt_of_le days.le)

/-! ## Timestamps -/

theorem countYears_ends {left year years leapYears : Nat} (few : years + leapYears + left < 256) (early : year + left < 256) :
    ∃ plain leap, countYears left (epochStartYear + year) years leapYears = some (plain, leap) ∧
      plain + leap = years + leapYears + left ∧
        plain * 365 + leap * 366 + daysOfYears year = years * 365 + leapYears * 366 + daysOfYears (year + left) := by
  induction left generalizing year years leapYears with
  | zero => exact ⟨years, leapYears, rfl, rfl, rfl⟩
  | succ left next =>
    have step : daysOfYears (year + 1) = daysOfYears year + datetimeGetDaysPerYear (epochStartYear + year) := rfl
    have sum : year + 1 + left = year + (left + 1) := by omega
    have inside : epochStartYear + year + 1 < 2 ^ 16 := by
      rw [epochStartYear]
      omega
    rw [countYears, u16, ← sum]
    rw [datetimeGetDaysPerYear] at step
    cases leap : datetimeIsLeapYear (epochStartYear + year) with
    | true =>
      rw [leap, if_pos rfl] at step
      obtain ⟨plain, leaps, ran, count, days⟩ := @next (year + 1) years (leapYears + 1) (by omega) (by omega)
      refine ⟨plain, leaps, ?_, by omega, by omega⟩
      rw [← ran]
      simp (disch := omega) only [u8, fits_of_lt]
      rfl
    | false =>
      rw [leap, if_neg Bool.false_ne_true] at step
      obtain ⟨plain, leaps, ran, count, days⟩ := @next (year + 1) (years + 1) leapYears (by omega) (by omega)
      refine ⟨plain, leaps, ?_, by omega, by omega⟩
      rw [← ran]
      simp (disch := omega) only [u8, fits_of_lt]
      rfl

theorem addMonths_ends {leapYear : Bool} {left months timestamp : Nat} (year : months + left < 12)
    (small : timestamp + left * 2 ^ 22 < 2 ^ 32) :
    ∃ sum, addMonths leapYear left (months + 1) timestamp = some sum ∧
      sum + daysOfMonths leapYear months * secondsPerDay =
        timestamp + daysOfMonths leapYear (months + left) * secondsPerDay := by
  induction left generalizing months timestamp with
  | zero => exact ⟨timestamp, rfl, rfl⟩
  | succ left next =>
    obtain ⟨count, counted, more, most⟩ := daysOfMonths_succ leapYear months (by omega)
    have month : count * secondsPerDay < 2 ^ 22 := (Nat.mul_le_mul_right secondsPerDay most).trans_lt (by decide)
    obtain ⟨sum, ran, total⟩ := @next (months + 1) (timestamp + count * secondsPerDay) (by omega) (by omega)
    refine ⟨sum, ?_, ?_⟩
    · rw [addMonths, bind_of_some counted, int, bind_of_some (fits_of_lt (by omega)), u8, bind_of_some (fits_of_lt (by omega)),
        u32, bind_of_some (fits_of_lt (by omega)), ran]
    · have equal : months + 1 + left = months + (left + 1) := by omega
      rw [more, equal, Nat.add_mul] at total
      omega

section
variable {datetime : DateTime}

/-- The seconds of the whole years are an `int`, which holds those of 68 years. -/
theorem datetimeToTimestamp_eq (right : datetime.Right) (near : datetime.year ≤ 2106) :
    datetimeDatetimeToTimestamp datetime = if datetime.year ≤ 2038 then some datetime.timestamp else none := by
  obtain ⟨years, months, days, equal, last, -, inside⟩ := right.parts
  replace inside := day_inside last inside
  have clock := secondOfDay_lt right
  have number := congrArg DateTime.dayNumber equal
  rw [dayNumber_mk] at number
  rw [DateTime.secondOfDay] at clock
  rw [DateTime.timestamp, DateTime.secondOfDay, number]
  rw [equal] at near ⊢
  have few : years ≤ 136 := Nat.le_of_add_le_add_left near
  obtain ⟨plain, leap, ran, count, sum⟩ := @countYears_ends years 0 0 0 (by omega) (by omega)
  replace ran : countYears years epochStartYear 0 0 = some (plain, leap) := ran
  have total : plain * 365 + leap * 366 = daysOfYears years := by
    simpa only [daysOfYears, Nat.zero_mul, Nat.zero_add, Nat.add_zero] using sum
  have plainFits : int (plain * 365) = some (plain * 365) := fits_of_lt (by omega)
  have leapFits : int (leap * 366) = some (leap * 366) := fits_of_lt (by omega)
  have daysFit : int (daysOfYears years) = some (daysOfYears years) := fits_of_lt (by omega)
  rw [datetimeDatetimeToTimestamp]
  dsimp only
  rw [Nat.add_sub_cancel_left, Nat.add_sub_cancel, Nat.add_sub_cancel, ran]
  rw [bind_of_some rfl, bind_of_some plainFits, bind_of_some leapFits, total, bind_of_some daysFit]
  by_cases early : years ≤ 68
  · have bound : daysOfYears years * secondsPerDay < 2 ^ 31 :=
      (Nat.mul_le_mul_right _ (daysOfYears_mono early)).trans_lt (by rw [daysOfYears_values.1]; decide)
    obtain ⟨start, added, whole⟩ := @addMonths_ends (datetimeIsLeapYear (epochStartYear + years)) months 0
      (daysOfYears years * secondsPerDay) (by omega) (by omega)
    rw [Nat.zero_add, daysOfMonths, List.take_zero, List.sum_nil] at whole
    have year : (daysOfMonths (datetimeIsLeapYear (epochStartYear + years)) months + days) * secondsPerDay < 2 ^ 25 :=
      (Nat.mul_le_mul_right _ (inside.trans_le (daysPerYear_bounds _).2).le).trans_lt (by decide)
    replace clock := clock.trans (by decide : secondsPerDay < 2 ^ 17)
    rw [Nat.add_mul] at year
    have soon : epochStartYear + years ≤ 2038 := Nat.add_le_add_left early 1970
    have startFits : int (daysOfYears years * secondsPerDay) = some _ := fits_of_lt bound
    have start32 : u32 (daysOfYears years * secondsPerDay) = some _ := fits_of_lt (by omega)
    rw [if_pos soon, Nat.add_mul, Nat.add_mul, ← Nat.add_assoc, ← Nat.add_assoc, ← Nat.add_assoc, ← whole]
    have dayFits : int (days * secondsPerDay) = some _ := fits_of_lt (by omega)
    have hourFits : int (datetime.hour * secondsPerHour) = some _ := fits_of_lt (by omega)
    have minuteFits : int (datetime.minute * secondsPerMinute) = some _ := fits_of_lt (by omega)
    rw [bind_of_some startFits, bind_of_some start32, bind_of_some added, if_neg (Nat.succ_ne_zero _), bind_of_some rfl,
      bind_of_some dayFits, u32, bind_of_some (fits_of_lt (by omega)), bind_of_some hourFits, u32,
      bind_of_some (fits_of_lt (by omega)), bind_of_some minuteFits, u32, bind_of_some (fits_of_lt (by omega))]
    exact fits_of_lt (by omega)
  · have bound : ¬ daysOfYears years * secondsPerDay < 2 ^ 31 := by
      have late : daysOfYears 69 * secondsPerDay ≤ daysOfYears years * secondsPerDay :=
        Nat.mul_le_mul_right _ (daysOfYears_mono (Nat.lt_of_not_le early))
      rw [daysOfYears_values.2.1] at late
      exact Nat.not_lt_of_le ((by decide : 2 ^ 31 ≤ 25202 * secondsPerDay).trans late)
    have late : ¬ epochStartYear + years ≤ 2038 := by
      rw [epochStartYear]
      omega
    have out : int (daysOfYears years * secondsPerDay) = none := if_neg bound
    rw [if_neg late, out]
    rfl

theorem datetime_conversions_iff (timestamp : BitVec 32) (right : datetime.Right) (since : 2000 ≤ datetime.year)
    (last : datetime.year ≤ 2099) :
    (∃ shown : DateTime, Settles (fun fuel => datetimeTimestampToDatetime fuel timestamp.toNat) shown ∧ shown.Right ∧
      shown.timestamp = timestamp.toNat ∧
        (datetimeDatetimeToTimestamp shown = some timestamp.toNat ↔ timestamp.toNat < 2177452800)) ∧
    ((∃ seconds : BitVec 32, datetimeDatetimeToTimestamp datetime = some seconds.toNat ∧
      Settles (fun fuel => datetimeTimestampToDatetime fuel seconds.toNat) datetime) ↔ datetime.year ≤ 2038) := by
  constructor
  · obtain ⟨shown, shownRight, equal, near⟩ := exists_right timestamp.isLt
    refine ⟨shown, ?_, shownRight, equal, ?_⟩
    · rw [← equal]
      exact timestampToDatetime_settles shownRight near
    · rw [← equal, timestamp_lt_iff shownRight, datetimeToTimestamp_eq shownRight near]
      split
      · next early => exact iff_of_true rfl early
      · next late => exact iff_of_false nofun late
  · have near : datetime.year ≤ 2106 := by omega
    rw [datetimeToTimestamp_eq right near]
    constructor
    · rintro ⟨seconds, equal, -⟩
      split at equal
      · assumption
      · cases equal
    · intro early
      have small : datetime.timestamp < 2 ^ 32 := ((timestamp_lt_iff right).mpr early).trans (by decide)
      refine ⟨BitVec.ofNatLT datetime.timestamp small, if_pos early, ?_⟩
      exact timestampToDatetime_settles right near

theorem newYear2000_right : DateTime.Right ⟨0, 0, 0, 1, 1, 2000, 6⟩ :=
  ⟨by decide, by decide, by decide +kernel, by decide, by decide +kernel⟩

theorem newYear2000_conversions :
    (∃ shown : DateTime, Settles (fun fuel => datetimeTimestampToDatetime fuel 0) shown ∧ shown.Right ∧
      shown.timestamp = 0 ∧ (datetimeDatetimeToTimestamp shown = some 0 ↔ 0 < 2177452800)) ∧
    ((∃ seconds : BitVec 32, datetimeDatetimeToTimestamp ⟨0, 0, 0, 1, 1, 2000, 6⟩ = some seconds.toNat ∧
      Settles (fun fuel => datetimeTimestampToDatetime fuel seconds.toNat) ⟨0, 0, 0, 1, 1, 2000, 6⟩) ↔ 2000 ≤ 2038) :=
  datetime_conversions_iff 0 newYear2000_right (by decide) (by decide)

/-- The first second of the year 2039, a Saturday, has no timestamp in range. -/
theorem newYear2039_overflows :
    DateTime.Right ⟨0, 0, 0, 1, 1, 2039, 6⟩ ∧ datetimeDatetimeToTimestamp ⟨0, 0, 0, 1, 1, 2039, 6⟩ = none :=
  ⟨⟨by decide, by decide, by decide +kernel, by decide, by decide +kernel⟩, by decide +kernel⟩

end

end Xtreme.Toolbox
