import Triage.Yaml.Tag

/-!
# Nodes

The structure of a document as a tree. Every node has a number of its own, which it keeps wherever an
alias repeats it. An alias inside the collection that it names closes a circle; there the tree ends.
-/

namespace Triage.Yaml

inductive Node where
  | scalar (id : Nat) (mark : Mark) (tag : Tag) (text : String)
  | sequence (id : Nat) (mark : Mark) (tag : Tag) (items : List Node)
  | mapping (id : Nat) (mark : Mark) (tag : Tag) (entries : List (Node × Node))
  /-- A collection around this place. -/
  | again (id : Nat) (mark : Mark) (kind : Kind) (tag : Tag)

namespace Node

instance : Inhabited Node := ⟨.scalar 0 ⟨0, 0, 0⟩ .null ""⟩

def mark : Node → Mark
  | .scalar _ mark .. | .sequence _ mark .. | .mapping _ mark .. | .again _ mark .. => mark

def kind : Node → Kind
  | .scalar .. => .scalar
  | .sequence .. => .sequence
  | .mapping .. => .mapping
  | .again _ _ kind _ => kind

def tag : Node → Tag
  | .scalar _ _ tag _ | .sequence _ _ tag _ | .mapping _ _ tag _ | .again _ _ _ tag => tag

end Node

end Triage.Yaml
