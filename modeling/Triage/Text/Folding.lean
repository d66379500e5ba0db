import Triage.Text.Case

/-!
# Equality without regard to case

Two characters are equal up to case when their lower cases are equal, or when their lower cases share
one upper case. ASCII folding relates the two cases of the ASCII letters and nothing else.
-/

namespace Triage.Text

/-- How a comparison regards case. -/
inductive Folding where
  | exact
  | ascii
  | full
deriving Repr, DecidableEq, Inhabited

/-- Lower-case characters that share an upper case. -/
def foldingClasses : List (List Nat) :=
  [[0x69, 0x131], [0x73, 0x17F], [0xB5, 0x3BC], [0x345, 0x3B9, 0x1FBE], [0x390, 0x1FD3],
    [0x3B0, 0x1FE3], [0x3B2, 0x3D0], [0x3B5, 0x3F5], [0x3B8, 0x3D1], [0x3BA, 0x3F0],
    [0x3C0, 0x3D6], [0x3C1, 0x3F1], [0x3C2, 0x3C3], [0x3C6, 0x3D5], [0x432, 0x1C80],
    [0x434, 0x1C81], [0x43E, 0x1C82], [0x441, 0x1C83], [0x442, 0x1C84, 0x1C85], [0x44A, 0x1C86],
    [0x463, 0x1C87], [0x1C88, 0xA64B], [0x1E61, 0x1E9B], [0xFB05, 0xFB06]]

/-- The lower case of a code point. -/
def lowerCode (code : Nat) : Nat :=
  if code.isValidChar then (lowerChar (Char.ofNat code)).toNat else code

/-- A lower-case code point with those that share its upper case. -/
def foldingClass (code : Nat) : List Nat :=
  (foldingClasses.find? (·.contains code)).getD [code]

/-- The code points with a given lower case. -/
def lowerSources (code : Nat) : List Nat :=
  let own := if lowerCode code = code then [code] else []
  let dotted := if code = 0x69 then [0x130] else []
  let ascii := if 0x61 ≤ code && code ≤ 0x7A then [code - 32] else []
  own ++ ascii ++ dotted ++ lowerRuns.filterMap fun (first, last, step, target) =>
    if target ≤ code && code - target ≤ last - first && (code - target) % step = 0
        && 128 ≤ first + (code - target)
    then some (first + (code - target)) else none

def asciiLower (code : Nat) : Nat := if 0x41 ≤ code && code ≤ 0x5A then code + 32 else code

namespace Folding

/-- Whether the character `c` equals the code point `code`. -/
def equal (folding : Folding) (code : Nat) (c : Char) : Bool :=
  match folding with
  | .exact => code == c.toNat
  | .ascii => asciiLower code == asciiLower c.toNat
  | .full => code == c.toNat || (foldingClass (lowerCode code)).contains (lowerChar c).toNat

/-- Whether the character `c` equals some code point of a range. -/
def inRange (folding : Folding) (low high : Nat) (c : Char) : Bool :=
  let within := fun code => low ≤ code && code ≤ high
  match folding with
  | .exact => within c.toNat
  | .ascii =>
    let lowered := asciiLower c.toNat
    within lowered || (0x61 ≤ lowered && lowered ≤ 0x7A && within (lowered - 32))
  | .full =>
    within c.toNat || (foldingClass (lowerChar c).toNat).any fun code => (lowerSources code).any within

/-- Whether two characters have the same lower case. -/
def sameLower (folding : Folding) (a b : Char) : Bool :=
  match folding with
  | .exact => a == b
  | .ascii => asciiLower a.toNat == asciiLower b.toNat
  | .full => lowerChar a == lowerChar b

end Folding

end Triage.Text
