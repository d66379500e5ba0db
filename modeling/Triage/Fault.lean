import Triage.FileTree
import Triage.Policy.Problem
import Triage.Text.Utf8
import Triage.Time.Iso

/-!
# Faults

A fault is why an operation gives no answer. Every cause belongs to a class, and has its wording.
-/

namespace Triage

/-- The classes of faults. -/
inductive FaultClass where
  /-- A document that is no policy. -/
  | policy
  | value
  | key
  | kind
  | member
  | position
  | magnitude
  | decoding
  /-- A file that cannot be used. -/
  | access
deriving Repr, DecidableEq

/-- What is wrong with a setting. -/
inductive SettingProblem where
  | notWhole (key raw : String)
  | negative (key raw : String)
  | level (shown : String)
  | notNumber (key raw : String)
  | notPositive (key raw : String)
deriving Repr, DecidableEq

inductive Fault where
  | policy (problems : List Problem)
  /-- A scalar of a document without a value. -/
  | scalar (fault : Yaml.ScalarFault)
  /-- A number too large for the operation, or the count of a repetition. -/
  | tooLarge
  | absent (key : String)
  | namelessColumn
  | unknownCategory (name : String)
  | moment (fault : Time.MomentFault)
  | integer (fault : Decimal.IntegerFault)
  /-- A pattern that is to be read as ASCII and as Unicode. -/
  | patternKinds
  /-- The value that is no number where a whole number is wanted. -/
  | notANumber
  /-- An infinity where a whole number is wanted. -/
  | infinite
  /-- A value of this kind has no entries under keys. -/
  | noEntries (kind : String)
  | textKeyOfList
  | textKeyOfText
  | noItems (kind : String)
  | notWhole (kind : String)
  | noMember (kind member : String)
  | unhashable (kind : String)
  /-- A value that is searched is no text. -/
  | notText
  | projectKind (name : String)
  | resolution (name : String)
  | settings (source : String) (problems : List SettingProblem)
  | decoding (fault : Text.Utf8.Fault)
  | access (fault : AccessFault)
deriving Repr, DecidableEq

namespace SettingProblem

def levelNames : List String := ["DEBUG", "INFO", "WARNING", "ERROR", "CRITICAL"]

def message : SettingProblem → String
  | .notWhole key raw => s!"{key}={Text.quoted raw} (expected an integer)"
  | .negative key raw => s!"{key}={Text.quoted raw} (must not be negative)"
  | .level shown =>
    s!"LOG_LEVEL={Text.quoted shown} (expected one of " ++ ", ".intercalate levelNames ++ ")"
  | .notNumber key raw => s!"{key}={Text.quoted raw} (expected a number)"
  | .notPositive key raw => s!"{key}={Text.quoted raw} (must be positive)"

end SettingProblem

namespace Fault

def scalarClass : Yaml.ScalarFault → FaultClass
  | .integer _ | .float _ | .range _ | .character => .value
  | .noDigits => .position
  | .noDate => .member
  | .truth _ => .key
  | .overflow => .magnitude

/-- The wording of a scalar without a value. The code of a character beyond any machine number is worded
like a number; `noDigits`, `noDate` and `overflow` show only at the end of a run that crashes. -/
def scalarMessage : Yaml.ScalarFault → String
  | .integer fault => fault.message
  | .float text => "could not convert string to float: " ++ Text.quoted text
  | .range fault => fault.message
  | .character => "chr() arg not in range(0x110000)"
  | .noDigits => "string index out of range"
  | .noDate => "'NoneType' object has no attribute 'groupdict'"
  | .truth text => Text.quoted text
  | .overflow => "int too large to convert to float"

def classOf : Fault → FaultClass
  | .policy _ => .policy
  | .scalar fault => scalarClass fault
  | .tooLarge | .infinite => .magnitude
  | .absent _ | .namelessColumn | .unknownCategory _ => .key
  | .moment _ | .integer _ | .patternKinds | .notANumber | .projectKind _ | .resolution _
  | .settings .. => .value
  | .noEntries _ | .textKeyOfList | .textKeyOfText | .noItems _ | .notWhole _ | .unhashable _
  | .notText => .kind
  | .noMember .. => .member
  | .decoding _ => .decoding
  | .access fault => if fault.problem = .zero then .value else .access

def policyMessages (problems : List Problem) : List String := problems.map Problem.message

/-- The wording of a fault. A run that ends with `tooLarge` crashes, and nothing else shows its wording. -/
def message : Fault → String
  | .policy problems => "Invalid workflow config: " ++ "; ".intercalate (policyMessages problems)
  | .scalar fault => scalarMessage fault
  | .tooLarge => "int too large to convert to float"
  | .absent key => Text.quoted key
  | .namelessColumn => Text.quoted "column entry has neither 'name' nor 'title'"
  | .unknownCategory name => Text.quoted ("Unknown label category: " ++ name)
  | .moment fault => fault.message
  | .integer fault => fault.message
  | .patternKinds => Pattern.Fault.kinds.message
  | .notANumber => "cannot convert float NaN to integer"
  | .infinite => "cannot convert float infinity to integer"
  | .noEntries kind => s!"'{kind}' object is not subscriptable"
  | .textKeyOfList => "list indices must be integers or slices, not str"
  | .textKeyOfText => "string indices must be integers, not 'str'"
  | .noItems kind => s!"'{kind}' object is not iterable"
  | .notWhole kind =>
    s!"int() argument must be a string, a bytes-like object or a real number, not '{kind}'"
  | .noMember kind member => s!"'{kind}' object has no attribute '{member}'"
  | .unhashable kind => s!"unhashable type: '{kind}'"
  | .notText => "expected string or bytes-like object"
  | .projectKind name =>
    s!"Unknown project type: {name}. Expected one of: " ++ ", ".intercalate (ProjectKind.all.map ProjectKind.name)
  | .resolution name => "Unknown conflict resolution strategy: " ++ name
  | .settings source problems =>
    s!"Invalid configuration in {source}: " ++ ", ".intercalate (problems.map SettingProblem.message)
  | .decoding fault => fault.message
  | .access fault => fault.message

end Fault

end Triage
