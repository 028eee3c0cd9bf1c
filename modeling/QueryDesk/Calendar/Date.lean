/-! # Dates and moments

Days of the proleptic Gregorian calendar and times of day, with what every valid one satisfies in
the type. A moment is a date and a time; `Moment.shift` moves it by less than a day, as a time zone
does.
-/

set_option autoImplicit false

namespace QueryDesk

/-- Whether a year has a 29th of February. -/
def isLeapYear (year : Int) : Bool :=
  year % 4 == 0 && (year % 100 != 0 || year % 400 == 0)

/-- How many days a month has. -/
def daysInMonth (year : Int) : Nat → Nat
  | 2 => if isLeapYear year then 29 else 28
  | 4 | 6 | 9 | 11 => 30
  | _ => 31

theorem daysInMonth_bounds (year : Int) (month : Nat) :
    28 ≤ daysInMonth year month ∧ daysInMonth year month ≤ 31 := by
  unfold daysInMonth
  split
  · split <;> decide
  all_goals decide

/-- **A day of the calendar.** -/
structure Date where
  year : Int
  month : Nat
  day : Nat
  month_bounds : 1 ≤ month ∧ month ≤ 12
  day_bounds : 1 ≤ day ∧ day ≤ daysInMonth year month
deriving DecidableEq

namespace Date

/-- The day with these numbers, if there is one. -/
def of? (year : Int) (month day : Nat) : Option Date :=
  if h : (1 ≤ month ∧ month ≤ 12) ∧ (1 ≤ day ∧ day ≤ daysInMonth year month) then
    some ⟨year, month, day, h.1, h.2⟩
  else none

/-- The day after. -/
def next (d : Date) : Date :=
  if h : d.day < daysInMonth d.year d.month then
    { d with day := d.day + 1, day_bounds := ⟨by omega, h⟩ }
  else if hm : d.month < 12 then
    ⟨d.year, d.month + 1, 1, ⟨by omega, hm⟩, ⟨by omega, by have := daysInMonth_bounds d.year (d.month + 1); omega⟩⟩
  else ⟨d.year + 1, 1, 1, by decide, ⟨by omega, by have := daysInMonth_bounds (d.year + 1) 1; omega⟩⟩

/-- The day before. -/
def previous (d : Date) : Date :=
  if h : 1 < d.day then
    { d with day := d.day - 1, day_bounds := by have := d.day_bounds; omega }
  else if hm : 1 < d.month then
    ⟨d.year, d.month - 1, daysInMonth d.year (d.month - 1),
      by have := d.month_bounds; omega,
      ⟨by have := daysInMonth_bounds d.year (d.month - 1); omega, Nat.le_refl _⟩⟩
  else
    ⟨d.year - 1, 12, daysInMonth (d.year - 1) 12, by decide,
      ⟨by have := daysInMonth_bounds (d.year - 1) 12; omega, Nat.le_refl _⟩⟩

/-- How many days of the year come before the month. -/
def daysBefore (year : Int) (month : Nat) : Nat :=
  (List.range (month - 1)).foldl (fun days m => days + daysInMonth year (m + 1)) 0

/-- The number of the day, counted from the first of January of the year one. -/
def number (d : Date) : Int :=
  let y := d.year - 1
  365 * y + y / 4 - y / 100 + y / 400 + daysBefore d.year d.month + d.day

/-- The day of the week, from Sunday as zero. -/
def weekday (d : Date) : Nat := (d.number % 7).toNat

/-- The quarter of the year, from one. -/
def quarter (d : Date) : Nat := (d.month - 1) / 3 + 1

end Date

/-- **A time of day** down to the nanosecond; a leap second is the second 59 with a nanosecond of
`10 ^ 9` or more. -/
structure Clock where
  hour : Nat
  minute : Nat
  second : Nat
  nanosecond : Nat
  hour_lt : hour < 24
  minute_lt : minute < 60
  second_lt : second < 60
  nanosecond_lt : nanosecond < 2000000000
deriving DecidableEq

namespace Clock

/-- The start of the day. -/
def midnight : Clock := ⟨0, 0, 0, 0, by decide, by decide, by decide, by decide⟩

/-- The time with these numbers, if there is one; the second 60 is a leap second. -/
def of? (hour minute second nanosecond : Nat) : Option Clock :=
  if h : hour < 24 ∧ minute < 60 ∧ second < 60 ∧ nanosecond < 1000000000 then
    some ⟨hour, minute, second, nanosecond, h.1, h.2.1, h.2.2.1, by omega⟩
  else if h : hour < 24 ∧ minute < 60 ∧ second = 60 ∧ nanosecond < 1000000000 then
    some ⟨hour, minute, 59, 1000000000 + nanosecond, h.1, h.2.1, by decide, by omega⟩
  else none

/-- The seconds since the start of the day. -/
def secondOfDay (c : Clock) : Nat := (c.hour * 60 + c.minute) * 60 + c.second

/-- The time at so many seconds of the day, with the same nanosecond. -/
def atSecondOfDay (c : Clock) (seconds : Nat) : Clock :=
  ⟨seconds / 3600 % 24, seconds / 60 % 60, seconds % 60, c.nanosecond, Nat.mod_lt _ (by decide),
    Nat.mod_lt _ (by decide), Nat.mod_lt _ (by decide), c.nanosecond_lt⟩

/-- The hour on a dial of twelve. -/
def dialHour (c : Clock) : Nat := if c.hour % 12 = 0 then 12 else c.hour % 12

/-- Whether the time is after noon. -/
def isAfternoon (c : Clock) : Bool := 12 ≤ c.hour

end Clock

/-- **A date and a time of day.** -/
structure Moment where
  date : Date
  clock : Clock
deriving DecidableEq

/-- The moment moved by an offset in seconds of less than a day. -/
def Moment.shift (m : Moment) (offset : Int) : Moment :=
  let seconds := (m.clock.secondOfDay : Int) + offset
  let clock := m.clock.atSecondOfDay (seconds % 86400).toNat
  if seconds < 0 then ⟨m.date.previous, clock⟩
  else if 86400 ≤ seconds then ⟨m.date.next, clock⟩
  else ⟨m.date, clock⟩

end QueryDesk
