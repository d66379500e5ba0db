import Triage.Policy
import Triage.Pattern.Problem
import Triage.Yaml.Fault

/-!
# What is wrong with a policy document

A problem names the place in the document and what was expected there. A problem of the written form of
the document stands alone; all others are collected.
-/

namespace Triage

/-- What is expected at a place of a policy document. -/
inductive Expectation where
  | aBool
  | aText
  | aFilledText
  | aList
  | quotedColor
  | positiveWhole
  | positiveHours
  | positive
  | whole
  | triggers
  | expression
  | upToOne
  | belowOne
deriving Repr, DecidableEq

namespace Expectation

def name : Expectation → String
  | .aBool => "true or false"
  | .aText => "a string"
  | .aFilledText => "a non-empty string"
  | .aList => "a list"
  | .quotedColor => "a quoted 6-digit hex string"
  | .positiveWhole => "a positive integer"
  | .positiveHours => "a positive number of hours"
  | .positive => "a positive number"
  | .whole => "an integer"
  | .triggers => "a list of triggers"
  | .expression => "a regular expression"
  | .upToOne => "a number between 0 and 1"
  | .belowOne => "a number in [0, 1)"

end Expectation

inductive Problem where
  /-- The written form of the document is at fault. -/
  | form (fault : Yaml.Fault)
  | topLevel
  | missingSection (path : String)
  | missingField (path : String)
  | notMapping (path kind : String)
  | expected (path : String) (what : Expectation)
  /-- A value that is none of the choices, shown as a literal. -/
  | choice (path : String) (choices : List String) (shown : String)
  | color (path raw : String)
  | labelName (path shown : String)
  | slaNotAllowed (path : String)
  | leadOfUnknown (shown : String)
  | statusReference (path column : String)
  | notInferred (path : String)
  | pattern (path : String) (fault : Pattern.Fault)
  | endpoints (path : String)
deriving Repr, DecidableEq

namespace Problem

/-- The description of a fault of the written form. -/
def formText : Yaml.Fault → String
  | .unacceptable code position =>
    let digits := Text.Quoted.hex (max 4 (Nat.log2 code / 4 + 1)) code
    "unacceptable character #x" ++ String.ofList digits
      ++ s!": special characters are not allowed\n  in \"<unicode string>\", position {position}"
  | .malformed problem _ => problem.message
  | .scalar _ => ""

def message : Problem → String
  | .form (.malformed problem mark) =>
    s!"YAML syntax error at line {mark.line + 1}, column {mark.column + 1}: {problem.message}"
  | .form fault => "YAML syntax error: " ++ formText fault
  | .topLevel => "workflow config must be a mapping at the top level"
  | .missingSection path => path ++ ": missing required section"
  | .missingField path => path ++ ": missing required field"
  | .notMapping path kind => s!"{path}: expected a mapping, got {kind}"
  | .expected path what => s!"{path}: expected {what.name}"
  | .choice path choices shown => path ++ ": must be one of " ++ ", ".intercalate choices ++ s!" (got {shown})"
  | .color path raw => s!"{path}: {Text.quoted raw} is not a 6-digit hex color"
  | .labelName path shown => s!"{path}: label names must be non-empty strings (got {shown})"
  | .slaNotAllowed path => path ++ ": only priority labels may set sla_hours"
  | .leadOfUnknown shown => "labels.prefixes: unknown category " ++ shown
  | .statusReference path column => s!"{path}: column {Text.quoted column} needs a status reference"
  | .notInferred path =>
    path ++ ": only " ++ ", ".intercalate (Category.inferred.map Category.name) ++ " can be inferred"
  | .pattern path fault => s!"{path}: invalid regular expression ({fault.message})"
  | .endpoints path => path ++ ": from_priority and to_priority must be strings"

end Problem

end Triage
