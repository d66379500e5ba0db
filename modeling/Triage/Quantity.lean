import Triage.Decimal.Fixed
import Triage.Number

/-!
# Quantities

Hours, days, weights and scores are computed in one of two kinds of numbers: binary64 numbers, which the
program uses, and fractions, in which the same rules hold exactly.
-/

namespace Triage

/-- Numbers to compute with. -/
class Quantity (α : Type) extends Add α, Sub α, Mul α, Div α, Neg α where
  /-- A number of a document; one may be too large. -/
  ofNumber? : Number → Option α
  ofFloat : Float → α
  ofNat : Nat → α
  less : α → α → Bool
  /-- Whether a quantity compares with all others. -/
  comparable : α → Bool
  atLeast : α → Int → Bool
  /-- A span of microseconds in seconds. -/
  seconds : Int → α
  /-- The nearest quantity with some decimal places. -/
  round : Nat → α → α
  /-- The text with a fixed number of decimal places. -/
  fixed : Nat → α → String

namespace Quantity

variable {α : Type} [Quantity α]

def hours (microseconds : Int) : α := seconds microseconds / ofNat 3600

def days (microseconds : Int) : α := seconds microseconds / ofNat 86400

/-- The lesser of two quantities, the second one only if it is strictly less. -/
def least (a b : α) : α := if less b a then b else a

def sum (xs : List α) : α := xs.foldl (· + ·) (ofNat 0)

end Quantity

/-- Seconds as the nearest binary64 number. -/
def secondsOf (microseconds : Int) : Float :=
  let magnitude := Float.ofScientific microseconds.natAbs true 6
  if microseconds < 0 then -magnitude else magnitude

instance : Quantity Float where
  ofNumber? := Number.toFloat?
  ofFloat x := x
  ofNat n := Float.ofScientific n false 0
  less a b := a < b
  comparable x := !x.isNaN
  atLeast x n := match Decimal.compareInt? x n with
    | some .lt | none => false
    | some _ => true
  seconds := secondsOf
  round := Decimal.roundPlaces
  fixed := Decimal.fixed

/-- The exact value of a number; one that is not finite counts as zero. -/
def ratOf (x : Float) : Rat := ((Decimal.finite? x).map Decimal.Binary.toRat).getD 0

instance : Quantity Rat where
  ofNumber?
    | .int n => some n
    | .float x => some (ratOf x)
  ofFloat := ratOf
  ofNat n := n
  less a b := a < b
  comparable _ := true
  atLeast x n := n ≤ x
  seconds microseconds := mkRat microseconds 1000000
  round := Decimal.roundPlacesRat
  fixed := Decimal.fixedRat

namespace Number

/-- The text with six significant digits. -/
def general (n : Number) : String := (n.toFloat?.map Decimal.general).getD n.text

end Number

end Triage
