import Triage.Decimal.Binary
import Triage.Time.Calendar

/-!
# Moments

A moment is a date with a time of day and, unless it is local, an offset from universal time. Two
moments with offsets are compared by their instants: microseconds counted from the start of year one
in universal time.
-/

namespace Triage.Time

structure Moment where
  date : Date
  hour : Nat
  minute : Nat
  second : Nat
  microsecond : Nat
  /-- Microseconds east of universal time; a local moment has none. -/
  offset : Option Int
deriving Repr, DecidableEq, Inhabited

def microsecondsPerSecond : Nat := 1000000

def microsecondsPerDay : Nat := 86400 * microsecondsPerSecond

/-- Why parts make up no moment. -/
inductive RangeFault where
  | year (value : Nat)
  | month
  | day
  | hour
  | minute
  | second
  | microsecond
  | offset (microseconds : Int)
deriving Repr, DecidableEq

/-- The parts of a span in days, seconds and microseconds, the days alone carrying a sign. -/
def spanParts (microseconds : Int) : Int × Nat × Nat :=
  let days := microseconds.fdiv microsecondsPerDay
  let rest := (microseconds.fmod microsecondsPerDay).toNat
  (days, rest / microsecondsPerSecond, rest % microsecondsPerSecond)

/-- A span as it is shown: the parts that are not zero. -/
def showSpan (microseconds : Int) : String :=
  let (days, seconds, micros) := spanParts microseconds
  let parts := (if days != 0 then [s!"days={days}"] else [])
    ++ (if seconds != 0 then [s!"seconds={seconds}"] else [])
    ++ (if micros != 0 then [s!"microseconds={micros}"] else [])
  "datetime.timedelta(" ++ (if parts.isEmpty then "0" else ", ".intercalate parts) ++ ")"

namespace RangeFault

def message : RangeFault → String
  | .year value => s!"year {value} is out of range"
  | .month => "month must be in 1..12"
  | .day => "day is out of range for month"
  | .hour => "hour must be in 0..23"
  | .minute => "minute must be in 0..59"
  | .second => "second must be in 0..59"
  | .microsecond => "microsecond must be in 0..999999"
  | .offset microseconds =>
    "offset must be a timedelta strictly between -timedelta(hours=24) and timedelta(hours=24), not "
      ++ showSpan microseconds ++ "."

end RangeFault

/-- The first part of a date that is out of range. -/
def Date.fault? (d : Date) : Option RangeFault :=
  if d.year = 0 || 9999 < d.year then some (.year d.year)
  else if d.month = 0 || 12 < d.month then some .month
  else if d.day = 0 || daysInMonth d.year d.month < d.day then some .day
  else none

namespace Moment

/-- The first part that is out of range; an offset is looked at before the date. -/
def fault? (t : Moment) : Option RangeFault :=
  match t.offset.filter fun o => microsecondsPerDay ≤ o.natAbs with
  | some o => some (.offset o)
  | none =>
    match t.date.fault? with
    | some f => some f
    | none =>
      if 23 < t.hour then some .hour
      else if 59 < t.minute then some .minute
      else if 59 < t.second then some .second
      else if 999999 < t.microsecond then some .microsecond
      else none

/-- Microseconds since midnight. -/
def timeOfDay (t : Moment) : Nat :=
  ((t.hour * 60 + t.minute) * 60 + t.second) * microsecondsPerSecond + t.microsecond

/-- Microseconds from the start of year one, in universal time when an offset is known. -/
def instant (t : Moment) : Int :=
  ((t.date.dayNumber : Int) - 1) * microsecondsPerDay + t.timeOfDay - t.offset.getD 0

/-- The moment read as universal time if it is local. -/
def assumeUniversal (t : Moment) : Moment := { t with offset := some (t.offset.getD 0) }

def midnight (d : Date) : Moment := ⟨d, 0, 0, 0, 0, none⟩

/-- The universal time of an instant. -/
def ofInstant (microseconds : Int) : Moment :=
  let day := microseconds.fdiv microsecondsPerDay
  let rest := (microseconds.fmod microsecondsPerDay).toNat
  let seconds := rest / microsecondsPerSecond
  ⟨.ofDayNumber (day + 1).toNat, seconds / 3600, seconds / 60 % 60, seconds % 60,
    rest % microsecondsPerSecond, some 0⟩

end Moment

open Decimal (padded)

namespace Date

def iso (d : Date) : List Char :=
  padded 4 d.year ++ '-' :: padded 2 d.month ++ '-' :: padded 2 d.day

end Date

/-- Hours, minutes, seconds where asked for, and microseconds unless they are zero. -/
def clockText (withSeconds : Bool) (microseconds : Nat) : List Char :=
  let seconds := microseconds / microsecondsPerSecond
  let micros := microseconds % microsecondsPerSecond
  padded 2 (seconds / 3600) ++ ':' :: padded 2 (seconds / 60 % 60)
    ++ (if withSeconds || micros != 0 || seconds % 60 != 0 then ':' :: padded 2 (seconds % 60) else [])
    ++ (if micros != 0 then '.' :: padded 6 micros else [])

/-- An offset as a sign, hours and minutes, with seconds and microseconds unless they are zero. -/
def offsetText (offset : Int) : List Char :=
  (if offset < 0 then '-' else '+') :: clockText false offset.natAbs

namespace Moment

/-- The written form, with a character between date and time. -/
def isoWith (separator : Char) (t : Moment) : String :=
  String.ofList (t.date.iso ++ separator :: clockText true t.timeOfDay
    ++ (t.offset.map offsetText).getD [])

def iso (t : Moment) : String := t.isoWith 'T'

/-- Date and time to the minute, the year without leading zeros. -/
def minuteText (t : Moment) : String :=
  String.ofList (Decimal.digits t.date.year ++ '-' :: padded 2 t.date.month ++ '-' :: padded 2 t.date.day
    ++ ' ' :: padded 2 t.hour ++ ':' :: padded 2 t.minute)

end Moment

end Triage.Time
