import ParamQuery.Text.Digits

/-!
# Dates and times of day

Dates of the Gregorian calendar, extended to all years, and times of day in nanoseconds. A day may
end with a leap second: the nanoseconds of its second 59 then run up to two seconds. Both types
hold only fields that exist, and `Date.ofFields?` and `Time.ofFields?` check them.
-/

namespace ParamQuery

open Text (padded)

def isLeapYear (year : Int) : Bool :=
  year % 4 == 0 && (year % 100 != 0 || year % 400 == 0)

/-- The number of days of a month, none if the year has no such month. -/
def daysInMonth (year : Int) (month : Nat) : Nat :=
  if month = 2 then if isLeapYear year then 29 else 28
  else if month = 4 ∨ month = 6 ∨ month = 9 ∨ month = 11 then 30
  else if 1 ≤ month ∧ month ≤ 12 then 31
  else 0

structure Date where
  year : Int
  month : Nat
  day : Nat
  day_mem : 1 ≤ day ∧ day ≤ daysInMonth year month
deriving DecidableEq, Repr

/-- The length of a second in nanoseconds. -/
def secondLength : Nat := 1000000000

structure Time where
  hour : Nat
  minute : Nat
  second : Nat
  nanosecond : Nat
  hour_lt : hour < 24
  minute_lt : minute < 60
  second_lt : second < 60
  nanosecond_lt :
    nanosecond < secondLength ∨ second = 59 ∧ nanosecond < 2 * secondLength
deriving DecidableEq, Repr

namespace Date

def ofFields? (year : Int) (month day : Nat) : Option Date :=
  if h : 1 ≤ day ∧ day ≤ daysInMonth year month then some ⟨year, month, day, h⟩ else none

/-- A year in four digits or more, with a sign unless it has four digits and is not negative. -/
def yearText (year : Int) : String :=
  let digits := padded 4 year.natAbs
  if year < 0 then "-" ++ digits
  else if 9999 < year then "+" ++ digits
  else digits

def text (d : Date) : String := yearText d.year ++ "-" ++ padded 2 d.month ++ "-" ++ padded 2 d.day

end Date

namespace Time

def ofFields? (hour minute second nanosecond : Nat) : Option Time :=
  if h : hour < 24 ∧ minute < 60 ∧ second < 60 ∧
      (nanosecond < secondLength ∨ second = 59 ∧ nanosecond < 2 * secondLength) then
    some ⟨hour, minute, second, nanosecond, h.1, h.2.1, h.2.2.1, h.2.2.2⟩
  else none

/-- A fraction of a second in three, six or nine digits, whatever it needs; nothing for zero. -/
def fractionText (nanosecond : Nat) : String :=
  if nanosecond = 0 then ""
  else if nanosecond % 1000000 = 0 then "." ++ padded 3 (nanosecond / 1000000)
  else if nanosecond % 1000 = 0 then "." ++ padded 6 (nanosecond / 1000)
  else "." ++ padded 9 nanosecond

/-- A time with colons between its fields; a leap second is second 60. -/
def text (t : Time) : String :=
  padded 2 t.hour ++ ":" ++ padded 2 t.minute ++ ":" ++
    padded 2 (t.second + t.nanosecond / secondLength) ++
    fractionText (t.nanosecond % secondLength)

end Time

structure DateTime where
  date : Date
  time : Time
deriving DecidableEq, Repr

namespace DateTime

def text (t : DateTime) : String := t.date.text ++ " " ++ t.time.text

def utcText (t : DateTime) : String := t.date.text ++ "T" ++ t.time.text ++ "+00:00"

end DateTime

end ParamQuery
