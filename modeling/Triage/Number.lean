import Triage.Decimal.Shortest

/-!
# Numbers of a document

A document holds whole numbers of any size and binary64 numbers. They are compared by their exact
values, so a whole number and a binary64 number of the same value are equal.
-/

namespace Triage

inductive Number where
  | int (n : Int)
  | float (x : Float)
deriving Repr, DecidableEq, Inhabited

namespace Decimal

/-- Compares a binary64 number with a whole number by exact value; nothing compares with a value that
is no number. -/
def compareInt? (x : Float) (n : Int) : Option Ordering :=
  match finite? x with
  | some parts =>
    let value := parts.toRat
    if value < n then some .lt else if value = n then some .eq else some .gt
  | none => if x.isNaN then none else if x < 0 then some .lt else some .gt

/-- The binary64 number nearest to a whole number, if it is finite. -/
def ofInt? (n : Int) : Option Float :=
  if Nat.pow 2 1024 ≤ n.natAbs then none
  else
    let magnitude := Float.ofScientific n.natAbs false 0
    if magnitude.isFinite then some (if n < 0 then -magnitude else magnitude) else none

end Decimal

namespace Number

/-- Equality of values. -/
def same : Number → Number → Bool
  | .int a, .int b => a == b
  | .float a, .float b => a == b
  | .int a, .float b => Decimal.compareInt? b a == some .eq
  | .float a, .int b => Decimal.compareInt? a b == some .eq

instance : BEq Number := ⟨same⟩

/-- The number is zero or less; this does not hold of a value that is no number. -/
def nonpositive : Number → Bool
  | .int n => n ≤ 0
  | .float x => x ≤ 0

/-- The number lies between zero and one, both included. -/
def inUnit : Number → Bool
  | .int n => 0 ≤ n && n ≤ 1
  | .float x => 0 ≤ x && x ≤ 1

/-- The number lies between zero and one, one excluded. -/
def belowOne : Number → Bool
  | .int n => 0 ≤ n && n < 1
  | .float x => 0 ≤ x && x < 1

/-- The binary64 number nearest to a number; a whole number may be too large for one. -/
def toFloat? : Number → Option Float
  | .int n => Decimal.ofInt? n
  | .float x => some x

/-- The written form. -/
def text : Number → String
  | .int n => toString n
  | .float x => Decimal.shortest x

end Number

end Triage
