/-!
# Calendar days

Days of the Gregorian calendar, continued in both directions as far as the
years that can be counted. A `Date` exists only if the day does, so a date
that was read can always be written, and what was written can be read.

The calendar is given in three ways that have to agree: by the days that exist, by the
day that follows a day, and by the number of a day, from which durations are made.
-/

namespace AppOperator

/-- Whether a year has a 29th of February. -/
def isLeapYear (year : Int) : Bool :=
  year % 4 = 0 && (year % 100 ≠ 0 || year % 400 = 0)

/-- The number of days of a month. -/
def daysInMonth (year : Int) (month : Nat) : Nat :=
  if month = 2 then (if isLeapYear year then 29 else 28)
  else if month = 4 ∨ month = 6 ∨ month = 9 ∨ month = 11 then 30
  else 31

/-- **A day of the calendar.** -/
structure Date where
  /-- The year; year 0 precedes year 1. -/
  year : Int
  /-- The month, from 1. -/
  month : Nat
  /-- The day of the month, from 1. -/
  day : Nat
  /-- The year can be counted. -/
  year_mem : -262143 ≤ year ∧ year ≤ 262142
  /-- The month exists. -/
  month_mem : 1 ≤ month ∧ month ≤ 12
  /-- The month has the day. -/
  day_mem : 1 ≤ day ∧ day ≤ daysInMonth year month
deriving DecidableEq

namespace Date

/-- The day with these numbers, if there is one. -/
def of? (year : Int) (month day : Nat) : Option Date :=
  if h : (-262143 ≤ year ∧ year ≤ 262142) ∧ (1 ≤ month ∧ month ≤ 12)
      ∧ (1 ≤ day ∧ day ≤ daysInMonth year month) then
    some ⟨year, month, day, h.1, h.2.1, h.2.2⟩
  else none

/-- A day is found by its own numbers. -/
@[simp] theorem of?_self (d : Date) : of? d.year d.month d.day = some d := by
  simp [of?, d.year_mem, d.month_mem, d.day_mem]

/-- The first day of 1970. -/
def epoch : Date := ⟨1970, 1, 1, by decide, by decide, by decide⟩

instance : Inhabited Date := ⟨epoch⟩

/-- The number of days of a year before a month begins. -/
def daysBefore (year : Int) (month : Nat) : Nat :=
  ((List.range' 1 (month - 1)).map (daysInMonth year)).foldl (· + ·) 0

/-- The position of a day in the calendar: consecutive days have consecutive
positions, and the first day of year 1 has position 1. -/
def position (d : Date) : Int :=
  let past := d.year - 1
  365 * past + past / 4 - past / 100 + past / 400 + daysBefore d.year d.month + d.day

/-- The day after, unless it is past the last one. -/
def next? (d : Date) : Option Date :=
  (of? d.year d.month (d.day + 1)).or
    ((of? d.year (d.month + 1) 1).or (of? (d.year + 1) 1 1))

/-- The day before, unless it is before the first one. -/
def prev? (d : Date) : Option Date :=
  (of? d.year d.month (d.day - 1)).or
    ((of? d.year (d.month - 1) (daysInMonth d.year (d.month - 1))).or
      (of? (d.year - 1) 12 31))

end Date
end AppOperator
