import Triage.Yaml.Node.Composition
import Triage.Yaml.Node.Outcome

/-!
# Reading a document

A text holds at most one document; without one its value is nothing. Characters that may not stand in a
document are refused before anything else.
-/

namespace Triage.Yaml

/-- The value of a text. -/
def read (s : String) : Except Fault Data :=
  let cs := s.toList
  match cs.findIdx? (!isAcceptable ·) with
  | some place => .error (.unacceptable (cs.getD place ' ').toNat place)
  | none => do
    match ← Node.ofText s with
    | some node => node.data
    | none => return .null

end Triage.Yaml
