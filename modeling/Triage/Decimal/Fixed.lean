import Triage.Decimal.Shortest

/-!
# Decimals of a given precision

Three forms: a fixed number of places behind the point, six significant digits with an exponent where
the number is large or small, and the number nearest to a value rounded to some places. All round the
exact value, a half to the even neighbour.
-/

namespace Triage.Decimal

/-- A magnitude given as a fraction with a fixed number of places. -/
def fixedMagnitude (places num den : Nat) : List Char :=
  let ds := padded (places + 1) (roundQuotient (num * Nat.pow 10 places) den)
  let whole := ds.length - places
  if places = 0 then ds else ds.take whole ++ '.' :: ds.drop whole

/-- The text of a value that is no finite number. -/
def special (x : Float) : String := if x.isNaN then "nan" else if x < 0 then "-inf" else "inf"

/-- A number with a fixed number of places behind the point. -/
def fixed (places : Nat) (x : Float) : String :=
  match finite? x with
  | none => special x
  | some parts =>
    let body := fixedMagnitude places parts.numerator parts.denominator
    String.ofList (if parts.negative then '-' :: body else body)

/-- A fraction with a fixed number of places behind the point. -/
def fixedRat (places : Nat) (x : Rat) : String :=
  let body := fixedMagnitude places x.num.natAbs x.den
  String.ofList (if x.num < 0 then '-' :: body else body)

/-- Digits of a positive fraction rounded to six, and the place of its point. -/
def sixDigits (num den : Nat) : List Char × Int :=
  let top := leadingPlace num den
  let (n, d) := scaled num den (top - 6)
  let rounded := digits (roundQuotient n d)
  (dropTrailingZeros rounded, top - 6 + rounded.length)

/-- A magnitude with six significant digits and no zeros at the end. -/
def generalMagnitude (num den : Nat) : List Char :=
  if num = 0 then ['0']
  else
    let (ds, point) := sixDigits num den
    if -4 < point && point ≤ 6 then
      if (ds.length : Int) ≤ point then ds ++ List.replicate (point.toNat - ds.length) '0'
      else positional ds point
    else withExponent ds point

/-- A number with six significant digits. -/
def general (x : Float) : String :=
  match finite? x with
  | none => special x
  | some parts =>
    let body := generalMagnitude parts.numerator parts.denominator
    String.ofList (if parts.negative then '-' :: body else body)

/-- The number nearest to `x` rounded to some places. -/
def roundPlaces (places : Nat) (x : Float) : Float :=
  match finite? x with
  | none => x
  | some parts =>
    let magnitude := Float.ofScientific
      (roundQuotient (parts.numerator * Nat.pow 10 places) parts.denominator) true places
    if parts.negative then -magnitude else magnitude

/-- A fraction rounded to some places. -/
def roundPlacesRat (places : Nat) (x : Rat) : Rat :=
  let magnitude : Rat := mkRat (roundQuotient (x.num.natAbs * Nat.pow 10 places) x.den) (Nat.pow 10 places)
  if x.num < 0 then -magnitude else magnitude

end Triage.Decimal
