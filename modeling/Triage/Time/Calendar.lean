/-!
# The calendar

Civil dates of the years 1 to 9999, counted in days: day one is the first of January of year one. A
year divisible by four is a leap year unless it is divisible by one hundred and not by four hundred.
-/

namespace Triage.Time

/-- A civil date. -/
structure Date where
  year : Nat
  month : Nat
  day : Nat
deriving Repr, DecidableEq, Inhabited

def isLeap (year : Nat) : Bool := year % 4 == 0 && (year % 100 != 0 || year % 400 == 0)

def monthLengths (year : Nat) : List Nat :=
  [31, if isLeap year then 29 else 28, 31, 30, 31, 30, 31, 31, 30, 31, 30, 31]

def daysInMonth (year month : Nat) : Nat := (monthLengths year).getD (month - 1) 31

/-- Days before the first of January of a year. -/
def daysBeforeYear (year : Nat) : Nat :=
  let y := year - 1
  y * 365 + y / 4 - y / 100 + y / 400

/-- Days of the year before the first of a month. -/
def daysBeforeMonth (year month : Nat) : Nat := ((monthLengths year).take (month - 1)).foldl (· + ·) 0

namespace Date

/-- The number of the day; the first of January of year one has number one. -/
def dayNumber (d : Date) : Nat := daysBeforeYear d.year + daysBeforeMonth d.year d.month + d.day

/-- The month and day with a given number of days of the year before them. -/
def monthAndDay : List Nat → Nat → Nat → Nat × Nat
  | [], month, rest => (month, rest + 1)
  | length :: more, month, rest =>
    if rest < length then (month, rest + 1) else monthAndDay more (month + 1) (rest - length)

/-- The date with a given number. -/
def ofDayNumber (number : Nat) : Date :=
  let n := number - 1
  let cycles := n / 146097
  let n := n % 146097
  let centuries := min (n / 36524) 3
  let n := n - centuries * 36524
  let fours := n / 1461
  let n := n % 1461
  let singles := min (n / 365) 3
  let rest := n - singles * 365
  let year := cycles * 400 + centuries * 100 + fours * 4 + singles + 1
  let (month, day) := monthAndDay (monthLengths year) 1 rest
  ⟨year, month, day⟩

/-- The day of the week, Monday being zero. -/
def weekday (d : Date) : Nat := (d.dayNumber + 6) % 7

example : (ofDayNumber 1) = ⟨1, 1, 1⟩ ∧ (ofDayNumber 3652059) = ⟨9999, 12, 31⟩ := by decide
example : (Date.mk 2024 2 29).dayNumber = 738945 ∧ ofDayNumber 738945 = ⟨2024, 2, 29⟩ := by decide
example : (Date.mk 2026 3 2).weekday = 0 := by decide

end Date

/-- The day number of the Monday that starts week one of a year: the week with its first Thursday. -/
def weekOneMonday (year : Nat) : Nat :=
  let first := (Date.mk year 1 1).dayNumber
  let day := (Date.mk year 1 1).weekday
  if day ≤ 3 then first - day else first + 7 - day

/-- A year has a week fifty-three when it starts on Thursday, or on Wednesday in a leap year. -/
def weeksInYear (year : Nat) : Nat :=
  let day := (Date.mk year 1 1).weekday
  if day == 3 || (day == 2 && isLeap year) then 53 else 52

end Triage.Time
