/-!
# Exact values of binary64 numbers

A finite binary64 number is a sign with `m * 2 ^ q`. Rounding a quotient goes to the nearest whole
number, and a half goes to the even neighbour.
-/

namespace Triage.Decimal

/-- The exact value of a finite number: a sign and `m * 2 ^ q`. -/
structure Binary where
  negative : Bool
  m : Nat
  q : Int
  /-- The gap to the value below is half the gap to the value above. -/
  narrowBelow : Bool

namespace Binary

/-- The parts of the bits of a finite number. -/
def ofBits (bits : UInt64) : Binary :=
  let exponent := ((bits >>> 52) &&& 0x7FF).toNat
  let fraction := (bits &&& 0xFFFFFFFFFFFFF).toNat
  let negative := bits >>> 63 == 1
  if exponent == 0 then ⟨negative, fraction, -1074, false⟩
  else ⟨negative, 0x10000000000000 + fraction, (exponent : Int) - 1075, fraction == 0 && exponent > 1⟩

/-- The magnitude is `numerator / denominator`. -/
def numerator (x : Binary) : Nat := x.m * Nat.pow 2 x.q.toNat

def denominator (x : Binary) : Nat := Nat.pow 2 (-x.q).toNat

/-- The value as a fraction. -/
def toRat (x : Binary) : Rat :=
  let magnitude : Rat := mkRat x.numerator x.denominator
  if x.negative then -magnitude else magnitude

end Binary

/-- The parts of a number, unless it is infinite or not a number. -/
def finite? (x : Float) : Option Binary :=
  if x.isFinite then some (.ofBits x.toBits) else none

/-- The quotient rounded to the nearest whole number, a half to the even neighbour. -/
def roundQuotient (num den : Nat) : Nat :=
  let quotient := num / den
  let twice := 2 * (num % den)
  if twice < den then quotient
  else if den < twice then quotient + 1
  else if quotient % 2 == 0 then quotient else quotient + 1

/-- The number of decimal digits; zero has none. -/
def digitCount (n : Nat) : Nat := if n = 0 then 0 else (Nat.repr n).length

/-- The place `k` of a positive fraction: `10 ^ (k - 1) ≤ num / den < 10 ^ k`. -/
def leadingPlace (num den : Nat) : Int :=
  if den ≤ num then digitCount (num / den) else 1 - (digitCount ((den - 1) / num) : Int)

/-- The quotient `num / den` in units of `10 ^ place`, as a fraction. -/
def scaled (num den : Nat) (place : Int) : Nat × Nat :=
  (num * Nat.pow 10 (-place).toNat, den * Nat.pow 10 place.toNat)

/-- The decimal digits of a number. -/
def digits (n : Nat) : List Char := (Nat.repr n).toList

/-- Writes the digits of `n` with at least `width` digits. -/
def padded (width n : Nat) : List Char :=
  let ds := digits n
  List.replicate (width - ds.length) '0' ++ ds

end Triage.Decimal
