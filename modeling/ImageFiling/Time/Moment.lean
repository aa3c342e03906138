import ImageFiling.Text.Numeral

/-!
# Moments

A moment is a wall-clock reading with its offset from UTC, in whole seconds. The offset comes with the
reading or, for one of the local zone, from what that zone tells of it. Hence whoever shows the time
also stands for the local zone, of which nothing is assumed here. The calendar is the Gregorian one
from year 1 to year 9999.
-/

namespace ImageFiling

structure Date where
  year : Nat
  month : Nat
  day : Nat
  deriving DecidableEq, Repr

inductive TimeFault where
  /-- A zone cannot be told where it leads before the first day of the calendar. -/
  | firstDay
  /-- A zone cannot be told where it leads after the last day. -/
  | lastDay
  | outsideCalendar
  deriving DecidableEq, Repr

def TimeFault.message : TimeFault → Text
  | .firstDay => "year 0 is out of range"
  | .lastDay => "year 10000 is out of range"
  | .outsideCalendar => "date value out of range"

/-- A wall-clock reading, and its offset from UTC in seconds if that can be told. -/
structure Moment where
  date : Date
  hour : Nat
  minute : Nat
  second : Nat
  microsecond : Nat
  utcOffset : Except TimeFault Int
  deriving Repr

namespace Date

def isLeap (year : Nat) : Bool := year % 4 == 0 && (year % 100 != 0 || year % 400 == 0)

def monthLength (year month : Nat) : Nat :=
  if month = 2 then (if isLeap year then 29 else 28)
  else if month = 4 ∨ month = 6 ∨ month = 9 ∨ month = 11 then 30 else 31

/-- The number of the day, counting the first of January of year 1 as 1. -/
def number (d : Date) : Nat :=
  let y := d.year - 1
  let months := (List.range (d.month - 1)).map fun m => monthLength d.year (m + 1)
  365 * y + y / 4 - y / 100 + y / 400 + months.foldl (· + ·) 0 + d.day

def weekday (d : Date) : Nat := d.number % 7

def next? (d : Date) : Option Date :=
  if d.day < monthLength d.year d.month then some { d with day := d.day + 1 }
  else if d.month < 12 then some { d with month := d.month + 1, day := 1 }
  else if d.year < 9999 then some ⟨d.year + 1, 1, 1⟩ else none

def previous? (d : Date) : Option Date :=
  if d.day > 1 then some { d with day := d.day - 1 }
  else if d.month > 1 then some ⟨d.year, d.month - 1, monthLength d.year (d.month - 1)⟩
  else if d.year > 1 then some ⟨d.year - 1, 12, 31⟩ else none

/-- The day some days later or, for a negative number, earlier. -/
def add? (d : Date) : Int → Option Date
  | .ofNat n => n.repeat (·.bind next?) (some d)
  | .negSucc n => (n + 1).repeat (·.bind previous?) (some d)

end Date

namespace Moment

def toUtc (m : Moment) : Except TimeFault Moment := do
  let offset ← m.utcOffset
  let seconds : Int := m.hour * 3600 + m.minute * 60 + m.second - offset
  match m.date.add? (seconds.fdiv 86400) with
  | none => .error .outsideCalendar
  | some date =>
    let s := (seconds.fmod 86400).toNat
    .ok ⟨date, s / 3600, s / 60 % 60, s % 60, m.microsecond, .ok 0⟩

/-- What a local zone that is UTC tells of a day: nothing on the first one. -/
def localUtc (d : Date) : Except TimeFault Int :=
  if d = ⟨1, 1, 1⟩ then .error .firstDay else .ok 0

def ofEpoch? (microseconds : Int) : Option Moment := do
  let seconds := microseconds.fdiv 1000000
  let date ← Date.add? ⟨1970, 1, 1⟩ (seconds.fdiv 86400)
  let s := (seconds.fmod 86400).toNat
  some ⟨date, s / 3600, s / 60 % 60, s % 60, (microseconds.fmod 1000000).toNat,
    localUtc date⟩

end Moment

end ImageFiling
