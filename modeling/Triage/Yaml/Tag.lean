import Triage.Decimal.Reading
import Triage.Time.Moment
import Triage.Yaml.Cursor

/-!
# Tags

A tag says what kind of value a node stands for. A plain scalar without one takes its tag from its
form; a form may have one line feed behind it.
-/

namespace Triage.Yaml

inductive Tag where
  | null
  | bool
  | int
  | float
  | binary
  | timestamp
  | omap
  | pairs
  | set
  | str
  | seq
  | map
  | merge
  | value
  | other (name : String)
deriving Repr, DecidableEq

/-- What the names of the tags with a fixed meaning begin with. -/
def standardTags : String := "tag:yaml.org,2002:"

namespace Tag

/-- The tags that have a meaning, by their short names. -/
def known : List (String × Tag) :=
  [("null", .null), ("bool", .bool), ("int", .int), ("float", .float), ("binary", .binary),
   ("timestamp", .timestamp), ("omap", .omap), ("pairs", .pairs), ("set", .set), ("str", .str),
   ("seq", .seq), ("map", .map), ("merge", .merge), ("value", .value)]

def ofName (name : String) : Tag :=
  match (Text.after? standardTags name).bind fun short => known.lookup short with
  | some tag => tag
  | none => .other name

def name : Tag → String
  | .other name => name
  | tag => standardTags ++ ((known.find? (·.2 == tag)).map Prod.fst).getD ""

end Tag

/-! ## Forms of numbers -/

namespace Form

def dropSign : List Char → List Char
  | '+' :: rest | '-' :: rest => rest
  | cs => cs

/-- A digit or an underscore. -/
def isPart (c : Char) : Bool := c.isDigit || c == '_'

/-- What follows groups that count sixtieths, each behind a colon. -/
def afterSixtieths : Nat → List Char → Option (List Char)
  | 0, _ => none
  | fuel + 1, ':' :: rest =>
    let ds := rest.takeWhile Char.isDigit
    let more := rest.dropWhile Char.isDigit
    if ds.length = 1 || (ds.length = 2 && ds.headD '9' < '6') then
      if more.head? = some ':' then afterSixtieths fuel more else some more
    else none
  | _ + 1, _ => none

/-- A signed exponent, or nothing. -/
def isExponent : List Char → Bool
  | [] => true
  | mark :: sign :: ds =>
    (mark == 'e' || mark == 'E') && (sign == '+' || sign == '-') && !ds.isEmpty && ds.all Char.isDigit
  | _ => false

/-- What follows a point may be digits and an exponent. -/
def isFraction (cs : List Char) : Bool := isExponent (cs.dropWhile isPart)

def isFloat (cs : List Char) : Bool :=
  let body := dropSign cs
  match body with
  | '.' :: rest =>
    ["inf", "Inf", "INF"].any (·.toList == rest)
      || (body == cs && (["nan", "NaN", "NAN"].any (·.toList == rest)
        || ((rest.headD ' ').isDigit && isFraction rest)))
  | first :: rest =>
    first.isDigit && match rest.dropWhile isPart with
      | '.' :: more => isFraction more
      | more => match afterSixtieths more.length more with
        | some ('.' :: places) => places.all isPart
        | _ => false
  | [] => false

def isInt (cs : List Char) : Bool :=
  let all := fun (p : Char → Bool) (ds : List Char) => !ds.isEmpty && ds.all fun c => c == '_' || p c
  match dropSign cs with
  | ['0'] => true
  | '0' :: 'b' :: ds => all (fun c => c == '0' || c == '1') ds
  | '0' :: 'x' :: ds => all (fun c => (Decimal.digitOf? 16 c).isSome) ds
  | '0' :: ds => all (fun c => '0' ≤ c && c ≤ '7') ds
  | first :: rest =>
    first.isDigit && match rest.dropWhile isPart with
      | [] => true
      | more => afterSixtieths more.length more == some []
  | [] => false

/-! ## Forms of dates -/

/-- One or two digits. -/
def short? (cs : List Char) : Option (Nat × List Char) :=
  let ds := cs.takeWhile Char.isDigit
  if ds.length = 1 || ds.length = 2 then some (Decimal.naturalOf ds, cs.dropWhile Char.isDigit) else none

/-- Exactly as many digits as asked for. -/
def digits? (count : Nat) (cs : List Char) : Option (Nat × List Char) :=
  let ds := cs.take count
  if ds.length = count && ds.all Char.isDigit then some (Decimal.naturalOf ds, cs.drop count) else none

def mark? (c : Char) : List Char → Option (List Char)
  | d :: rest => if d == c then some rest else none
  | [] => none

def isGap (c : Char) : Bool := c == ' ' || c == '\t'

/-- An offset in microseconds: nothing, `Z`, or a sign with hours and perhaps minutes. -/
def offset? (cs : List Char) : Option (Option Int) := do
  match cs with
  | [] => some none
  | _ => match cs.dropWhile isGap with
    | ['Z'] => some (some 0)
    | sign :: rest =>
      if sign == '+' || sign == '-' then
        let (hours, rest) ← short? rest
        let minutes ← match rest with
          | [] => some 0
          | _ => do
            let (minutes, rest) ← digits? 2 (← mark? ':' rest)
            if rest.isEmpty then some minutes else none
        let span : Int := (hours * 60 + minutes) * 60 * Time.microsecondsPerSecond
        some (some (if sign == '-' then -span else span))
      else none
    | [] => none

/-- The time of day behind a date, with its offset. -/
def clock? (date : Time.Date) (cs : List Char) : Option Time.Moment := do
  let (hour, rest) ← short? cs
  let (minute, rest) ← digits? 2 (← mark? ':' rest)
  let (second, rest) ← digits? 2 (← mark? ':' rest)
  let (places, rest) := match rest with
    | '.' :: more => (more.takeWhile Char.isDigit, more.dropWhile Char.isDigit)
    | _ => ([], rest)
  let offset ← offset? rest
  let micros := Decimal.naturalOf (places.take 6 ++ List.replicate (6 - places.length) '0')
  return ⟨date, hour, minute, second, micros, offset⟩

/-- A date, or a moment behind `T` or a gap; their parts may be out of range. -/
def stamp? (cs : List Char) : Option (Time.Date × Option Time.Moment) := do
  let (year, rest) ← digits? 4 cs
  let (month, rest) ← short? (← mark? '-' rest)
  let (day, rest) ← short? (← mark? '-' rest)
  let date : Time.Date := ⟨year, month, day⟩
  match rest with
  | [] => return (date, none)
  | c :: more =>
    if c == 'T' || c == 't' then return (date, some (← clock? date more))
    else if isGap c then return (date, some (← clock? date (more.dropWhile isGap)))
    else none

/-- A date with all its digits, or a moment. -/
def isTimestamp (cs : List Char) : Bool :=
  match stamp? cs with
  | some (_, none) => cs.length == 10
  | some (_, some _) => true
  | none => false

/-! ## The tag of a form -/

/-- Drops one line feed from the end. -/
def withoutFinalBreak (cs : List Char) : List Char :=
  if cs.getLast? = some '\n' then cs.dropLast else cs

def truths : List String :=
  ["yes", "Yes", "YES", "true", "True", "TRUE", "on", "On", "ON"]

def falsehoods : List String :=
  ["no", "No", "NO", "false", "False", "FALSE", "off", "Off", "OFF"]

def nulls : List String := ["~", "null", "Null", "NULL"]

end Form

open Form in
/-- The tag that a plain scalar has by its form. -/
def Tag.ofForm (text : String) : Tag :=
  if text == "" then .null
  else
    let cs := withoutFinalBreak text.toList
    let word := String.ofList cs
    if truths.contains word || falsehoods.contains word then .bool
    else if isFloat cs then .float
    else if isInt cs then .int
    else if word == "<<" then .merge
    else if nulls.contains word then .null
    else if isTimestamp cs then .timestamp
    else if word == "=" then .value
    else if ["!", "&", "*"].contains word then .other (standardTags ++ "yaml")
    else .str

end Triage.Yaml
