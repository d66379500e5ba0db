/-!
# Octets in base 64

Four letters stand for three octets. Characters outside the alphabet are passed over, and padding ends
the text once the last group is full.
-/

namespace Triage.Text.Base64

inductive Fault where
  /-- One letter is left over behind whole groups. -/
  | single (letters : Nat)
  | padding
deriving Repr, DecidableEq

namespace Fault

def message : Fault → String
  | .single letters =>
    s!"Invalid base64-encoded string: number of data characters ({letters}) "
      ++ "cannot be 1 more than a multiple of 4"
  | .padding => "Incorrect padding"

end Fault

/-- The value of a letter. -/
def letter? (c : Char) : Option Nat :=
  if c.isUpper then some (c.toNat - 65)
  else if c.isLower then some (c.toNat - 71)
  else if c.isDigit then some (c.toNat + 4)
  else if c == '+' then some 62
  else if c == '/' then some 63
  else none

/-- The letters up to the padding that ends the text, and whether there is such padding; `place` is the
number of letters in the current group and `pads` the padding read in it. -/
def letters (place pads : Nat) : List Char → List Nat × Bool
  | [] => ([], false)
  | '=' :: rest =>
    if 2 ≤ place then
      if 4 ≤ place + pads + 1 then ([], true) else letters place (pads + 1) rest
    else letters place pads rest
  | c :: rest =>
    match letter? c with
    | none => letters place pads rest
    | some n =>
      let (more, closed) := letters ((place + 1) % 4) 0 rest
      (n :: more, closed)

/-- The octets of whole groups and of the begun one. -/
def octets : List Nat → List UInt8
  | a :: b :: c :: d :: rest =>
    (a * 4 + b / 16).toUInt8 :: (b % 16 * 16 + c / 4).toUInt8 :: (c % 4 * 64 + d).toUInt8 :: octets rest
  | [a, b, c] => [(a * 4 + b / 16).toUInt8, (b % 16 * 16 + c / 4).toUInt8]
  | [a, b] => [(a * 4 + b / 16).toUInt8]
  | _ => []

def decode (cs : List Char) : Except Fault (List UInt8) :=
  let (found, closed) := letters 0 0 cs
  if closed || found.length % 4 = 0 then .ok (octets found)
  else if found.length % 4 = 1 then .error (.single found.length)
  else .error .padding

example : decode "aGk=".toList = .ok [104, 105] := by rfl
example : decode "x".toList = .error (.single 1) := by rfl

end Triage.Text.Base64
