import TrustedAppId.Text.Digits
/-! Points in time as dates of the Gregorian calendar, extended to all years in reach, and times of
day in UTC. A second numbered 60 is a leap second; any minute may have one. -/
namespace TrustedAppId

def isLeapYear (year : Int) : Bool :=
  year % 4 = 0 && (year % 100 ≠ 0 || year % 400 = 0)

def daysInMonth (year : Int) (month : Nat) : Nat :=
  if month = 2 then (if isLeapYear year then 29 else 28)
  else if month = 4 ∨ month = 6 ∨ month = 9 ∨ month = 11 then 30
  else 31

def firstYear : Int := -262143

def lastYear : Int := 262142

structure Date where
  year : Int
  month : Nat
  day : Nat
  year_in_reach : firstYear ≤ year ∧ year ≤ lastYear
  month_exists : 1 ≤ month ∧ month ≤ 12
  day_exists : 1 ≤ day ∧ day ≤ daysInMonth year month
deriving DecidableEq

namespace Date

def of? (year : Int) (month day : Nat) : Option Date :=
  if h : (firstYear ≤ year ∧ year ≤ lastYear) ∧ (1 ≤ month ∧ month ≤ 12) ∧
      1 ≤ day ∧ day ≤ daysInMonth year month then
    some ⟨year, month, day, h.1, h.2.1, h.2.2⟩
  else none

def next? (d : Date) : Option Date :=
  if d.day < daysInMonth d.year d.month then of? d.year d.month (d.day + 1)
  else if d.month < 12 then of? d.year (d.month + 1) 1
  else of? (d.year + 1) 1 1

def previous? (d : Date) : Option Date :=
  if 1 < d.day then of? d.year d.month (d.day - 1)
  else if 1 < d.month then of? d.year (d.month - 1) (daysInMonth d.year (d.month - 1))
  else of? (d.year - 1) 12 31

end Date

structure TimeOfDay where
  hour : Nat
  minute : Nat
  second : Nat
  nanosecond : Nat
  hour_exists : hour < 24
  minute_exists : minute < 60
  second_exists : second ≤ 60
  nanosecond_exists : nanosecond < 1000000000
deriving DecidableEq

def TimeOfDay.of? (hour minute second nanosecond : Nat) : Option TimeOfDay :=
  if h : hour < 24 ∧ minute < 60 ∧ second ≤ 60 ∧ nanosecond < 1000000000 then
    some ⟨hour, minute, second, nanosecond, h.1, h.2.1, h.2.2.1, h.2.2.2⟩
  else none

structure Timestamp where
  date : Date
  time : TimeOfDay
deriving DecidableEq

namespace Timestamp

def of? (year : Int) (month day hour minute second nanosecond : Nat) : Option Timestamp := do
  pure ⟨← Date.of? year month day, ← TimeOfDay.of? hour minute second nanosecond⟩

/-- The same point in time when the given fields are those of a place `minutes` ahead of UTC. -/
def ofLocal? (date : Date) (time : TimeOfDay) (minutes : Int) : Option Timestamp :=
  let total : Int := 60 * time.hour + time.minute - minutes
  let ofDay (day : Int) : Option Date :=
    if day < 0 then date.previous? else if 0 < day then date.next? else some date
  let rest := (total % 1440).toNat
  do
    let date ← ofDay (total / 1440)
    let time ← TimeOfDay.of? (rest / 60) (rest % 60) time.second time.nanosecond
    pure ⟨date, time⟩

/-- Year, month and day of the day that lies `days` after 1 January 1970. A calendar year is counted
from March here, so that a leap day comes last. -/
def civil (days : Int) : Int × Nat × Nat :=
  let shifted := days + 719468
  let era := shifted / 146097
  let dayOfEra := (shifted % 146097).toNat
  let yearOfEra := (dayOfEra - dayOfEra / 1460 + dayOfEra / 36524 - dayOfEra / 146096) / 365
  let dayOfYear := dayOfEra - (365 * yearOfEra + yearOfEra / 4 - yearOfEra / 100)
  let part := (5 * dayOfYear + 2) / 153
  let day := dayOfYear - (153 * part + 2) / 5 + 1
  let month := if part < 10 then part + 3 else part - 9
  (yearOfEra + era * 400 + (if month ≤ 2 then 1 else 0), month, day)

/-- The point in time `seconds` and `nanoseconds` after the beginning of 1970. -/
def ofUnix? (seconds : Int) (nanoseconds : Nat) : Option Timestamp :=
  let (year, month, day) := civil (seconds / 86400)
  let rest := (seconds % 86400).toNat
  of? year month day (rest / 3600) (rest / 60 % 60) (rest % 60) nanoseconds

end Timestamp

end TrustedAppId
