import Triage.Text.Blank
import Triage.Text.Quoted
import Triage.Time.Moment

/-!
# Written moments

The accepted forms: a date as `YYYY-MM-DD`, `YYYYMMDD`, or by week and weekday, then any one character
and a time of two to six digits with or without colons, a fraction, and an offset. A time is cut at the
first sign or `Z`; one character, or anything after the fraction, may stand in front of the offset. A
time is also over at a NUL, whatever stands behind it.
-/

namespace Triage.Time

/-- Why a text is no moment. -/
inductive MomentFault where
  | form (text : String)
  | range (fault : RangeFault)
deriving Repr, DecidableEq

namespace MomentFault

def message : MomentFault → String
  | .form text => "Invalid isoformat string: " ++ Text.quoted text
  | .range fault => fault.message

end MomentFault

namespace Iso

/-- The value of exactly `count` digits and what follows them. -/
def digits? : Nat → List Char → Option (Nat × List Char)
  | 0, cs => some (0, cs)
  | count + 1, c :: rest =>
    if c.isDigit then
      (digits? count rest).map fun (n, more) => ((c.toNat - 48) * Nat.pow 10 count + n, more)
    else none
  | _ + 1, [] => none

/-- Where the date ends. -/
def dateEnd (cs : List Char) : Nat :=
  if cs.length = 7 then 7
  else if cs[4]? = some '-' then
    if cs[5]? = some 'W' then
      if cs[8]? = some '-' then
        if (cs[10]?.map Char.isDigit).getD false then 8 else 10
      else 8
    else 10
  else if cs[4]? = some 'W' then
    let stop := 7 + ((cs.drop 7).takeWhile Char.isDigit).length
    if stop < 9 then stop else if stop % 2 = 0 then 7 else 8
  else 8

/-- The date of a weekday in a numbered week. The weeks of year zero lie in front of the calendar, in no
month of it. -/
def weekDate? (year week day : Nat) : Option Date :=
  if week = 0 || weeksInYear year < week || day = 0 || 7 < day then none
  else if year = 0 then some ⟨1, 0, 0⟩
  else some (.ofDayNumber (weekOneMonday year + (week - 1) * 7 + day - 1))

/-- Reads a date from the start of a text, `length` being where it should end. -/
def date? (length : Nat) (cs : List Char) : Option Date := do
  let (year, rest) ← digits? 4 cs
  let dashed := rest.head? = some '-'
  let rest := if dashed then rest.tail else rest
  match rest with
  | 'W' :: rest =>
    let (week, rest) ← digits? 2 rest
    if cs.length - rest.length < length then
      let rest ← if dashed then (match rest with | '-' :: more => some more | _ => none) else some rest
      let (day, _) ← digits? 1 rest
      weekDate? year week day
    else weekDate? year week 1
  | rest =>
    let (month, rest) ← digits? 2 rest
    let rest ← if dashed then (match rest with | '-' :: more => some more | _ => none) else some rest
    let (day, _) ← digits? 2 rest
    return ⟨year, month, day⟩

/-- A time of day as read, and whether something is left over after it. -/
structure Clock where
  hour : Nat
  minute : Nat
  second : Nat
  microsecond : Nat
  leftOver : Bool

/-- A text is over at its end, and at a NUL. -/
def isOver (cs : List Char) : Bool := cs.head?.all (· == '\x00')

/-- Up to six digits of a fraction; further digits are dropped. -/
def fraction? (cs : List Char) : Option (Nat × Bool) := do
  let count := min 6 cs.length
  let (n, rest) ← digits? count cs
  return (n * Nat.pow 10 (6 - count), !isOver (rest.dropWhile Char.isDigit))

/-- What a field of two digits is followed by. -/
inductive Next where
  | done (leftOver : Bool)
  | field (rest : List Char)
  | fraction (rest : List Char)

/-- Decides by the characters behind a field whether another one follows. -/
def next? (colons : Bool) : List Char → Option Next
  | [] => some (.done false)
  | [c] => some (.done !isOver [c])
  | c :: rest =>
    if colons && c == ':' then some (.field rest)
    else if c == '.' || c == ',' then some (.fraction rest)
    else if colons then none
    else some (.field (c :: rest))

/-- Reads hours, minutes, seconds and a fraction. -/
def clock? (cs : List Char) : Option Clock := do
  let (hour, rest) ← digits? 2 cs
  let colons := rest.head? = some ':'
  match ← next? colons rest with
  | .done left => return ⟨hour, 0, 0, 0, left⟩
  | .fraction rest =>
    let (micros, left) ← fraction? rest
    return ⟨hour, 0, 0, micros, left⟩
  | .field rest =>
    let (minute, rest) ← digits? 2 rest
    match ← next? colons rest with
    | .done left => return ⟨hour, minute, 0, 0, left⟩
    | .fraction rest =>
      let (micros, left) ← fraction? rest
      return ⟨hour, minute, 0, micros, left⟩
    | .field rest =>
      let (second, rest) ← digits? 2 rest
      match ← next? colons rest with
      | .done left => return ⟨hour, minute, second, 0, left⟩
      | .fraction rest | .field rest =>
        let (micros, left) ← fraction? rest
        return ⟨hour, minute, second, micros, left⟩

/-- Reads a time with its offset in microseconds. Nothing may be left over behind an offset, nor behind a
time without one. -/
def time? (cs : List Char) : Option (Clock × Option Int) := do
  let isMark := fun c : Char => c == '+' || c == '-' || c == 'Z'
  let clock ← clock? (cs.takeWhile (!isMark ·))
  match cs.dropWhile (!isMark ·) with
  | [] => if clock.leftOver then none else return (clock, none)
  | mark :: zone =>
    if mark == 'Z' then
      if isOver zone then return (clock, some 0) else none
    else
      let away ← clock? zone
      if away.leftOver then none
      else
        let seconds := (away.hour * 60 + away.minute) * 60 + away.second
        let span : Int :=
          if seconds = 0 then 0 else seconds * microsecondsPerSecond + away.microsecond
        return (clock, some (if mark == '-' then -span else span))

/-- Reads the octets of a text, each standing as one character. -/
def read? (cs : List Char) : Option Moment := do
  if cs.length < 7 then none
  else
    let stop := dateEnd cs
    let date ← date? stop cs
    match cs.drop stop with
    | [] => return .midnight date
    | separator :: rest =>
      let width := if separator.toNat < 0x80 then 1
        else if separator.toNat / 16 = 14 then 3
        else if separator.toNat / 16 = 15 then 4 else 2
      let (clock, offset) ← time? (rest.drop (width - 1))
      return ⟨date, clock.hour, clock.minute, clock.second, clock.microsecond, offset⟩

end Iso

/-- The octets of a text, each as one character. -/
def octets (s : String) : List Char := s.toUTF8.toList.map fun b => Char.ofNat b.toNat

/-- Reads a written moment. -/
def Moment.ofIso (s : String) : Except MomentFault Moment :=
  match Iso.read? (octets s) with
  | none => .error (.form s)
  | some t => match t.fault? with
    | some f => .error (.range f)
    | none => .ok t

/-- Reads a timestamp: blanks around it are dropped, a final `Z` is universal time, and a moment without
an offset is taken as universal time. -/
def timestamp (s : String) : Except MomentFault Moment :=
  let text := Text.strip s
  let text := if text.toList.getLast? = some 'Z' then
    String.ofList (text.toList.dropLast ++ "+00:00".toList) else text
  (Moment.ofIso text).map Moment.assumeUniversal

end Triage.Time
