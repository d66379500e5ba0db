import Triage.Policy

/-!
# Standard triggers

The signs by which labels are recognised where a policy gives none of its own: at the start of the title,
and words anywhere in the text.
-/

namespace Triage.Inference

/-- Words that tell of a security problem. -/
def securityPattern : String :=
  "\\b(security|vulnerabilit(?:y|ies)|cve|xss|csrf|sql injection|exploit|rce)\\b"

def sign (name : String) (weight : Float) (pattern : String) : Trigger := ⟨pattern, weight, some name⟩

/-- A title that begins with one of some words. -/
def titleSign (name words : String) : Trigger := sign ("title prefix " ++ name) 0.9 ("^" ++ words ++ "[\\s:(]")

/-- One of some words anywhere. -/
def wordSign (name : String) (weight : Float) (words : String) : Trigger :=
  sign name weight ("\\b(" ++ words ++ ")\\b")

def typeTriggers : TriggerTable := .ofList [
  ("bug", [
    titleSign "fix/bug" "(fix|bug)",
    wordSign "bug keywords" 0.6 "bug|error|crash(es|ed)?|broken|exception|fail(s|ed|ure)?",
    wordSign "regression" 0.3 "regression|not working|doesn't work"]),
  ("feature", [
    titleSign "feat" "(feat|feature)",
    wordSign "feature keywords" 0.5 "add|implement|support|feature|enhancement|request",
    wordSign "proposal" 0.3 "would be nice|it would be great|proposal"]),
  ("docs", [
    titleSign "docs" "docs?",
    wordSign "docs keywords" 0.6 "docs?|documentation|readme|typo|guide|tutorial"]),
  ("refactor", [
    titleSign "refactor" "(refactor|chore|perf)",
    wordSign "refactor keywords" 0.6
      "refactor|cleanup|clean up|restructure|simplify|tech(nical)? debt"]),
  ("test", [
    titleSign "test" "tests?",
    wordSign "test keywords" 0.6 "tests?|testing|coverage|e2e|flaky"]),
  ("security", [
    titleSign "security" "security",
    sign "security signal" 1.0 securityPattern])]

def priorityTriggers : TriggerTable := .ofList [
  ("P0", [
    wordSign "critical keywords" 0.8 "critical|urgent|outage|production down|data loss|emergency",
    sign "security signal" 0.5 securityPattern]),
  ("P1", [
    wordSign "high priority keywords" 0.7 "high priority|important|asap|blocker|blocking|major"]),
  ("P2", [
    wordSign "medium priority keywords" 0.6 "medium priority|moderate|normal priority"]),
  ("P3", [
    wordSign "low priority keywords" 0.6 "low priority|nice to have|cosmetic|someday|trivial|minor"])]

def areaTriggers : TriggerTable := .ofList [
  ("api", [wordSign "api keywords" 0.6 "api|endpoints?|rest|graphql|grpc|webhooks?"]),
  ("database", [
    wordSign "database keywords" 0.6 "database|db|sql|migrations?|schema|query|queries"]),
  ("auth", [
    wordSign "auth keywords" 0.6
      "auth|authentication|authorization|login|logout|token|jwt|oauth|sso|password"]),
  ("performance", [
    wordSign "performance keywords" 0.6 "performance|slow|latency|optimi[sz]e|memory|cpu|timeouts?"]),
  ("ui", [wordSign "ui keywords" 0.6 "ui|components?|button|form|modal|layout|css"]),
  ("ux", [
    wordSign "ux keywords" 0.6 "ux|usability|user experience|confusing|accessibility"]),
  ("responsive", [
    wordSign "responsive keywords" 0.6 "responsive|mobile|tablet|breakpoints?|viewport"]),
  ("docs", [wordSign "docs keywords" 0.6 "docs?|documentation|readme|docstrings?"]),
  ("examples", [wordSign "example keywords" 0.6 "examples?|samples?|demo"]),
  ("compatibility", [
    wordSign "compatibility keywords" 0.6
      "compatib(le|ility)|deprecat\\w*|breaking change|backwards?"])]

/-- The standard triggers of a category. -/
def standard : Category → TriggerTable
  | .type => typeTriggers
  | .priority => priorityTriggers
  | .area => areaTriggers
  | .status | .workflow => ∅

end Triage.Inference
