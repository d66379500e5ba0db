import Triage.Inference.Standard
import Triage.Note
import Triage.Order
import Triage.Pattern.Matching
import Triage.Quantity
import Triage.Tracker.Issue

/-!
# Inferring labels

Labels are suggested from the text of an issue. A trigger that matches the title, the body or any label
adds its weight once; the score of a label is the sum of the weights of its triggers, one at most. In
each category the label with the best score is suggested, the first one of several, if its score is
above zero and reaches the threshold. Labels that the policy does not define are never suggested.
-/

namespace Triage

namespace Pattern

/-- Whether a pattern matches somewhere in a text without regard to case. -/
def found (pattern text : String) : Bool := (search pattern text).toOption.getD false

end Pattern

structure Suggestion (α : Type) where
  category : Category
  /-- The full name. -/
  label : String
  confidence : α
  reason : String

structure Suggestions (α : Type) where
  /-- At most one suggestion for each category, in the order of categories. -/
  byCategory : List (Suggestion α)
  /-- The same ones, the most confident first. -/
  all : List (Suggestion α)

namespace Suggestions

variable {α : Type}

def none : Suggestions α := ⟨[], []⟩

def isEmpty (s : Suggestions α) : Bool := s.all.isEmpty

end Suggestions

namespace Policy

/-- The triggers of a category: the standard ones, and in their place those of the policy. -/
def triggerTable (p : Policy) (category : String) : TriggerTable :=
  let standard := ((Category.ofName? category).map Inference.standard).getD ∅
  match p.automation.inference.overrides.bind (·.get? category) with
  | some own => standard.update own
  | none => standard

end Policy

namespace Inference

variable {α : Type} [Quantity α]

/-- How a pattern is looked for in a text. -/
abbrev Finder := String → String → Bool

/-- Whether a pattern matches one of the sources; a source that is no text cannot be searched. -/
def matchesAny (find : Finder) (pattern : String) : List Data → Except Fault Bool
  | [] => .ok false
  | .text s :: rest => if find pattern s then .ok true else matchesAny find pattern rest
  | _ :: _ => .error .notText

/-- The sum of the weights of the triggers that match, and their names. -/
def addMatches (find : Finder) (sources : List Data) : α → List Trigger → Except Fault (α × List String)
  | total, [] => .ok (total, [])
  | total, trigger :: rest => do
    if ← matchesAny find trigger.pattern sources then
      let (sum, names) ← addMatches find sources (total + Quantity.ofFloat trigger.weight) rest
      return (sum, trigger.displayName :: names)
    else addMatches find sources total rest

/-- The score of some triggers and the names of those that match. -/
def score (find : Finder) (sources : List Data) (triggers : List Trigger) :
    Except Fault (α × List String) := do
  let (total, names) ← addMatches find sources (Quantity.ofNat 0) triggers
  return (Quantity.least (Quantity.ofNat 1) total, names)

/-- A label with its score. -/
structure Candidate (α : Type) where
  short : String
  score : α
  names : List String

/-- The first candidate of the best score above zero. -/
def best (find : Finder) (sources : List Data) (defined : String → Bool) :
    Option (Candidate α) → List (String × List Trigger) → Except Fault (Option (Candidate α))
  | leader, [] => .ok leader
  | leader, (short, triggers) :: rest =>
    if defined short then do
      let (points, names) ← score find sources triggers
      let wins := Quantity.less (Quantity.ofNat 0) points
        && (leader.elim true fun c => Quantity.less c.score points)
      best find sources defined (if wins then some ⟨short, points, names⟩ else leader) rest
    else best find sources defined leader rest

/-- The suggestion for a category. -/
def suggest (find : Finder) (sources : List Data) (p : Policy) (category : Category) :
    Except Fault (Option (Suggestion α)) := do
  match ← best find sources (p.group category).defines none (p.triggerTable category.name).entries with
  | none => return none
  | some c =>
    if Quantity.less c.score (Quantity.ofFloat p.automation.inference.threshold) then return none
    else return some {
      category
      label := p.fullLabel category c.short
      confidence := Quantity.round 4 c.score
      reason := "matched: " ++ ", ".intercalate c.names }

/-- Whether a text is blank; anything but a text cannot be asked. -/
def isBlank : Data → Except Fault Bool
  | .text s => .ok (Text.isBlankText s)
  | value => .error (.noMember value.kind "strip")

/-- An issue without any text in title and body. -/
def isSilent (i : Issue) : Except Fault Bool := do
  if ← isBlank i.title then isBlank i.body else return false

/-- What is searched: the title, the body and every label. -/
def sources (i : Issue) : List Data := i.title :: i.body :: i.labels.sorted.map .text

def suggestEach (find : Finder) (sources : List Data) (p : Policy) :
    List Category → Except Fault (List (Suggestion α))
  | [] => .ok []
  | category :: rest => do
    let first ← suggest find sources p category
    let others ← suggestEach find sources p rest
    return first.toList ++ others

/-- The suggestions for an issue, given a way to look for patterns. -/
def inferWith (find : Finder) (p : Policy) (i : Issue) : Run (Suggestions α) := do
  if !p.automation.inference.enabled then
    Run.note .debug .inference "Label inference disabled, skipping"
    return .none
  else if ← (isSilent i : Except Fault Bool) then return .none
  else
    let found ← (suggestEach find (sources i) p Category.inferred : Except Fault (List (Suggestion α)))
    let ordered := Order.sort (fun a b => Quantity.less b.confidence a.confidence) found
    if !ordered.isEmpty then
      Run.note .debug .inference
        (s!"Inferred {ordered.length} label(s) for issue #{i.number}: "
          ++ ", ".intercalate (ordered.map Suggestion.label))
    return ⟨found, ordered⟩

/-- The suggestions for an issue. -/
def infer (p : Policy) (i : Issue) : Run (Suggestions Float) := inferWith Pattern.found p i

/-- The suggestions that the issue does not carry yet. -/
def recommend (p : Policy) (i : Issue) : Run (List (Suggestion Float)) := do
  return (← infer p i).all.filter fun s => decide (s.label ∉ i.labels)

/-- The categories that every issue has to have a label of. -/
def required (p : Policy) : List Category :=
  (if p.automation.intake.requireType then [.type] else [])
    ++ (if p.automation.intake.requirePriority then [.priority] else []) ++ [.status]

/-- The required categories of which the issue has no label. -/
def missing (p : Policy) (i : Issue) : List Category :=
  (required p).filter fun c =>
    !i.labels.names.any fun label => ((p.matchLabel? c label).map (· != "")).getD false

end Inference

end Triage
