import Triage.Text.Blank
import Triage.Text.Word
import Triage.Text.Quoted
import Triage.Decimal.Binary

/-!
# Reading numbers

A whole number is a sign and digits of a base, a decimal number has an optional point and exponent.
Single underscores may stand between digits, digits may come from any script, and blanks around the
number are passed over. Whole numbers in base ten have at most 4300 digits.
-/

namespace Triage.Decimal

/-- Why a text is no whole number, or a whole number has no text. -/
inductive IntegerFault where
  | literal (base : Nat) (text : String)
  | tooLong (digits : Nat)
  | tooLongToWrite
deriving Repr, DecidableEq

namespace IntegerFault

def message : IntegerFault → String
  | .literal base text =>
    s!"invalid literal for int() with base {base}: "
      ++ String.ofList ((Text.Quoted.encode text.toList).take 200)
  | .tooLong count =>
    s!"Exceeds the limit (4300 digits) for integer string conversion: value has {count} digits; "
      ++ "use sys.set_int_max_str_digits() to increase the limit"
  | .tooLongToWrite =>
    "Exceeds the limit (4300 digits) for integer string conversion; "
      ++ "use sys.set_int_max_str_digits() to increase the limit"

end IntegerFault

/-- The greatest number of digits that is read or written in base ten. -/
def digitLimit : Nat := 4300

/-- Whether a whole number has more digits than may be written. -/
def isTooLong (n : Int) : Bool := digitLimit < (toString n.natAbs).length

/-- A character as it counts for numbers: ASCII characters stand for themselves, of all others digits become
ASCII digits and blanks become spaces. -/
def numeral (c : Char) : Char :=
  if c.toNat < 128 then c
  else if Text.isBlank c then ' '
  else match Text.digitValue? c with
    | some d => Char.ofNat (48 + d)
    | none => c

theorem numeral_eq_self {c : Char} (ascii : c.toNat < 128) : numeral c = c := if_pos ascii

def isAsciiBlank (c : Char) : Bool := c == ' ' || (9 ≤ c.toNat && c.toNat ≤ 13)

/-- The characters of a number without the blanks around it. -/
def numeralText (s : String) : List Char := Text.trimBy isAsciiBlank (s.toList.map numeral)

/-- The value of a digit in a base up to sixteen and beyond. -/
def digitOf? (base : Nat) (c : Char) : Option Nat :=
  let value := if c.isDigit then c.toNat - 48
    else if c.isLower then c.toNat - 87
    else if c.isUpper then c.toNat - 55
    else base
  if value < base then some value else none

/-- Digits with single underscores between them; counts the digits. -/
def digitRun? (base : Nat) : List Char → Option (Nat × Nat)
  | [] => none
  | c :: rest => do go (← digitOf? base c) 1 rest
where
  go (value count : Nat) : List Char → Option (Nat × Nat)
    | [] => some (value, count)
    | ['_'] => none
    | '_' :: c :: rest => do go (value * base + (← digitOf? base c)) (count + 1) rest
    | c :: rest => do go (value * base + (← digitOf? base c)) (count + 1) rest

/-- Splits a sign off; `true` stands for minus. -/
def splitSign : List Char → Bool × List Char
  | '-' :: rest => (true, rest)
  | '+' :: rest => (false, rest)
  | cs => (false, cs)

/-- Drops the base mark that bases two, eight and sixteen may have, with one underscore after it. -/
def dropBaseMark (base : Nat) : List Char → List Char
  | '0' :: c :: rest =>
    let lowered := c.toLower
    if (base == 16 && lowered == 'x') || (base == 8 && lowered == 'o') || (base == 2 && lowered == 'b')
    then match rest with
      | '_' :: more => more
      | _ => rest
    else '0' :: c :: rest
  | cs => cs

/-- Reads a whole number in a base. The digits in front are counted before what stands behind them is refused. -/
def integer (base : Nat) (s : String) : Except IntegerFault Int :=
  let (negative, body) := splitSign (numeralText s)
  let body := dropBaseMark base body
  let ahead := body.takeWhile fun c => (digitOf? base c).isSome || c == '_'
  match digitRun? base ahead with
  | none => .error (.literal base s)
  | some (value, count) =>
    if base == 10 && digitLimit < count then .error (.tooLong count)
    else if ahead.length < body.length then .error (.literal base s)
    else .ok (if negative then -(value : Int) else value)

/-- The number nearest to `mantissa * 10 ^ exponent`. -/
def nearest (mantissa : Nat) (exponent : Int) : Float :=
  if mantissa = 0 then 0
  else
    let top := exponent + digitCount mantissa
    if top > 400 then Float.ofScientific 1 false 400
    else if top < -400 then 0
    else Float.ofScientific mantissa (exponent < 0) exponent.natAbs

/-- Removes underscores, each of which must stand between two digits. -/
def joinDigits? (previous : Char) : List Char → Option (List Char)
  | [] => if previous == '_' then none else some []
  | c :: rest =>
    if c == '_' then
      if previous.isDigit then joinDigits? c rest else none
    else if previous == '_' && !c.isDigit then none
    else (joinDigits? c rest).map (c :: ·)

def naturalOf (ds : List Char) : Nat := ds.foldl (fun n c => n * 10 + (c.toNat - 48)) 0

/-- The exponent part: empty, or a mark, a sign and digits. -/
def exponentPart? : List Char → Option Int
  | [] => some 0
  | c :: rest =>
    if c == 'e' || c == 'E' then
      let (negative, ds) := splitSign rest
      if ds.isEmpty || !ds.all Char.isDigit then none
      else some (if negative then -(naturalOf ds : Int) else naturalOf ds)
    else none

/-- Digits, an optional point with further digits, and an exponent. -/
def magnitude? (cs : List Char) : Option Float :=
  let whole := cs.takeWhile Char.isDigit
  let afterWhole := cs.dropWhile Char.isDigit
  let (places, rest) := match afterWhole with
    | '.' :: more => (more.takeWhile Char.isDigit, more.dropWhile Char.isDigit)
    | more => ([], more)
  if whole.isEmpty && places.isEmpty then none
  else (exponentPart? rest).map fun e => nearest (naturalOf (whole ++ places)) (e - places.length)

/-- Reads a decimal number, an infinity or the value that is no number. -/
def float? (s : String) : Option Float := do
  let cs ← joinDigits? ' ' (numeralText s)
  let (negative, body) := splitSign cs
  let name := String.ofList (body.map Char.toLower)
  let magnitude ←
    if name == "inf" || name == "infinity" then some (1 / 0)
    else if name == "nan" then some (0 / 0)
    else magnitude? body
  return if negative then -magnitude else magnitude

end Triage.Decimal
