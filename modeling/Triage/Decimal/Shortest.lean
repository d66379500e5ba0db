import Triage.Decimal.Binary

/-!
# Shortest decimals

The decimal of a binary64 number is the shortest one that reads back to it, and of those the nearest.
It is found on the grids of one to seventeen digits: on each the two neighbours of the exact value are
tried. From `0.0001` up to `10 ^ 16` it is written positionally with a digit behind the point, outside
that range with an exponent of at least two digits.
-/

namespace Triage.Decimal

/-- The value `digits * 10 ^ exponent`. -/
structure Scientific where
  digits : Nat
  exponent : Int
deriving Repr, DecidableEq

namespace Binary

/-- Whether a decimal lies among the values that round to `x`; the ends belong to even numbers. -/
def readsBack (x : Binary) (d : Scientific) : Bool :=
  let low := if x.narrowBelow then 4 * x.m - 1 else 4 * x.m - 2
  let high := 4 * x.m + 2
  let j := x.q - 2
  let decimal := d.digits * Nat.pow 10 d.exponent.toNat * Nat.pow 2 (-j).toNat
  let unit := Nat.pow 2 j.toNat * Nat.pow 10 (-d.exponent).toNat
  if x.m % 2 == 0 then low * unit ≤ decimal && decimal ≤ high * unit
  else low * unit < decimal && decimal < high * unit

/-- The neighbour of the value on the grid of `count` digits that reads back, the nearer if both do. -/
def onGrid? (x : Binary) (top : Int) (count : Nat) : Option Scientific :=
  let exponent := top - count
  let (num, den) := scaled x.numerator x.denominator exponent
  let below : Scientific := ⟨num / den, exponent⟩
  let above : Scientific := ⟨num / den + 1, exponent⟩
  match x.readsBack below, x.readsBack above with
  | true, true =>
    let nearest := roundQuotient num den
    some ⟨nearest, exponent⟩
  | true, false => some below
  | false, true => some above
  | false, false => none

/-- The shortest decimal that reads back. -/
def shortest (x : Binary) : Scientific :=
  if x.m = 0 then ⟨0, 0⟩
  else
    let top := leadingPlace x.numerator x.denominator
    match (List.range' 1 17).findSome? (x.onGrid? top) with
    | some d => d
    | none => ⟨x.numerator * Nat.pow 5 (-x.q).toNat, min x.q 0⟩

end Binary

/-- Drops the zeros at the end. -/
def dropTrailingZeros (ds : List Char) : List Char :=
  (ds.reverse.dropWhile (· == '0')).reverse

/-- Digits whose point stands `point` places after their start, with at least one digit on each side. -/
def positional (ds : List Char) (point : Int) : List Char :=
  if point ≤ 0 then
    '0' :: '.' :: List.replicate (-point).toNat '0' ++ ds
  else
    let whole := point.toNat
    let left := ds.take whole ++ List.replicate (whole - ds.length) '0'
    let right := ds.drop whole
    left ++ '.' :: (if right.isEmpty then ['0'] else right)

/-- The exponent mark with its sign and at least two digits. -/
def exponentMark (e : Int) : List Char :=
  'e' :: (if e < 0 then '-' else '+') :: padded 2 e.natAbs

/-- Digits with an exponent, the point after the first. -/
def withExponent (ds : List Char) (point : Int) : List Char :=
  let mantissa := match ds with
    | [] => ['0']
    | [d] => [d]
    | d :: rest => d :: '.' :: rest
  mantissa ++ exponentMark (point - 1)

/-- The written form of a finite number. -/
def writeFinite (x : Binary) : List Char :=
  let d := x.shortest
  let all := digits d.digits
  let ds := if x.m = 0 then ['0'] else dropTrailingZeros all
  let point := if x.m = 0 then 1 else d.exponent + all.length
  let body := if -4 < point && point ≤ 16 then positional ds point else withExponent ds point
  if x.negative then '-' :: body else body

/-- The shortest text of a number. -/
def shortest (x : Float) : String :=
  match finite? x with
  | some parts => String.ofList (writeFinite parts)
  | none => if x.isNaN then "nan" else if x < 0 then "-inf" else "inf"

end Triage.Decimal
