/-!
# Sorted code-point ranges

A character class that goes beyond ASCII is a list of inclusive ranges in ascending order. Membership
is by search, and a class is tested as the union of its ranges.
-/

namespace Triage.Text

/-- Inclusive ranges of code points. -/
abbrev Ranges := List (Nat × Nat)

namespace Ranges

/-- A code point belongs to the class when some range holds it. -/
def contains (ranges : Ranges) (code : Nat) : Bool :=
  ranges.any fun range => range.1 ≤ code && code ≤ range.2

end Ranges

end Triage.Text
