/-!
# Label categories

Every label of a policy belongs to one of five categories, which always come in the same order: the
place on the board, the urgency, the kind of work, the part of the project, and marks of the process.
-/

namespace Triage

inductive Category where
  | status
  | priority
  | type
  | area
  | workflow
deriving Repr, DecidableEq, Inhabited

namespace Category

def all : List Category := [.status, .priority, .type, .area, .workflow]

def name : Category → String
  | .status => "status"
  | .priority => "priority"
  | .type => "type"
  | .area => "area"
  | .workflow => "workflow"

def ofName? (s : String) : Option Category := all.find? (·.name == s)

theorem mem_all (c : Category) : c ∈ all := by cases c <;> decide

theorem ofName?_name (c : Category) : ofName? c.name = some c := by cases c <;> rfl

/-- The categories that can be inferred, in the order that breaks ties. -/
def inferred : List Category := [.type, .priority, .area]

/-- A category that may be left without labels. -/
def isOptional : Category → Bool
  | .area | .workflow => true
  | _ => false

/-- What full names of labels begin with unless a policy says otherwise. -/
def standardLead (c : Category) : String := c.name ++ "/"

end Category

end Triage
