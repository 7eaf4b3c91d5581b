/-!
# Instants

An instant is a point of universal time given by the fields of the proleptic Gregorian
calendar, exact to the nanosecond.  Second 60 is a leap second, which any minute may
carry.  The calendar reaches from the year -262143 to the year 262142.
-/

namespace TreeShell.Time

/-! ## Dates -/

/-- Whether a year has a 29th of February. -/
def isLeapYear (year : Int) : Bool :=
  year % 4 == 0 && (year % 100 != 0 || year % 400 == 0)

/-- The number of days of a month, counted from 1; there are none outside 1 to 12. -/
def daysInMonth (year : Int) : Nat → Nat
  | 2 => if isLeapYear year then 29 else 28
  | 4 | 6 | 9 | 11 => 30
  | 1 | 3 | 5 | 7 | 8 | 10 | 12 => 31
  | _ => 0

/-- Whether the fields name a day of the calendar. -/
abbrev IsDate (year : Int) (month day : Nat) : Prop :=
  -262143 ≤ year ∧ year ≤ 262142 ∧ 1 ≤ day ∧ day ≤ daysInMonth year month

/-- A day of the calendar. -/
structure Date where
  year : Int
  month : Nat
  day : Nat
  isDate : IsDate year month day := by decide
deriving DecidableEq

/-- The day with the given fields, if there is one. -/
def Date.ofFields? (year : Int) (month day : Nat) : Option Date :=
  if h : IsDate year month day then some ⟨year, month, day, h⟩ else none

/-- The day after, unless the calendar ends. -/
def Date.next? (d : Date) : Option Date :=
  if d.day < daysInMonth d.year d.month then ofFields? d.year d.month (d.day + 1)
  else if d.month < 12 then ofFields? d.year (d.month + 1) 1
  else ofFields? (d.year + 1) 1 1

/-- The day before, unless the calendar begins. -/
def Date.previous? (d : Date) : Option Date :=
  if 1 < d.day then ofFields? d.year d.month (d.day - 1)
  else if 1 < d.month then ofFields? d.year (d.month - 1) (daysInMonth d.year (d.month - 1))
  else ofFields? (d.year - 1) 12 31

/-! ## Times of day -/

/-- Whether the fields name a time of day; second 60 is a leap second. -/
abbrev IsClock (hour minute second nano : Nat) : Prop :=
  hour < 24 ∧ minute < 60 ∧ second ≤ 60 ∧ nano < 1000000000

/-- A point of universal time. -/
structure Instant where
  date : Date
  hour : Nat
  minute : Nat
  second : Nat
  nano : Nat
  isClock : IsClock hour minute second nano := by decide
deriving DecidableEq

instance : Inhabited Instant := ⟨⟨⟨1970, 1, 1, by decide⟩, 0, 0, 0, 0, by decide⟩⟩

namespace Instant

/-- The instant with the given fields, if they name a day and a time of day. -/
def ofFields? (year : Int) (month day hour minute second nano : Nat) : Option Instant := do
  let date ← Date.ofFields? year month day
  if h : IsClock hour minute second nano then some ⟨date, hour, minute, second, nano, h⟩ else none

/-- The universal time of a clock that runs `offset` minutes ahead of it, for an offset
of less than a day; none beyond the calendar's ends. -/
def behind? (t : Instant) (offset : Int) : Option Instant := do
  let minutes : Int := 60 * t.hour + t.minute - offset
  let date ←
    if minutes < 0 then t.date.previous?
    else if minutes < 1440 then some t.date
    else t.date.next?
  let ofDay := (minutes % 1440).toNat
  if h : IsClock (ofDay / 60) (ofDay % 60) t.second t.nano then
    some ⟨date, ofDay / 60, ofDay % 60, t.second, t.nano, h⟩
  else none

end Instant

end TreeShell.Time
