import Triage.Yaml.Node
import Triage.Yaml.Scalar

/-!
# Values of nodes

A scalar has its value, or its fault, as soon as it is met. The entries of a collection are met later:
first those of the outermost collection, then those of the collections in it, and so on inward. So the
fault that counts is the first one at the least depth.

The mappings that a merge key names put their entries in front of those of the mapping that holds it.
Later entries win over earlier ones with an equal key.
-/

namespace Triage.Yaml

/-- What comes of a node. -/
structure Outcome where
  /-- The fault that is found when the node is met. -/
  opening : Option Fault
  /-- The first fault among the entries at each depth. -/
  later : List (Option Fault)
  data : Data

/-- A key with its value. -/
structure Entry where
  mark : Mark
  key : Outcome
  value : Outcome

/-- The first fault of two at each depth. -/
def firstFaults : List (Option Fault) → List (Option Fault) → List (Option Fault)
  | [], second => second
  | first, [] => first
  | a :: first, b :: second => a.or b :: firstFaults first second

namespace Outcome

def failed (fault : Fault) : Outcome := ⟨some fault, [], .null⟩

def leaf : Except Fault Data → Outcome
  | .ok data => ⟨none, [], data⟩
  | .error fault => failed fault

/-- A collection, given the first fault among its entries and what comes of them. -/
def collection (own : Option Fault) (parts : List Outcome) (data : Data) : Outcome :=
  ⟨none, own :: (parts.map later).foldr firstFaults [], data⟩

def sequence (items : List Outcome) (build : List Data → Data) : Outcome :=
  collection (items.findSome? opening) items (build (items.map data))

end Outcome

namespace Entry

/-- The first fault of an entry; a key has to be hashable. -/
def fault? (e : Entry) : Option Fault :=
  (e.key.opening.or
    (if e.key.data.unhashable then some (.malformed .unhashableKey e.mark) else none)).or e.value.opening

def parts (e : Entry) : List Outcome := [e.key, e.value]

/-- The entries as a mapping. -/
def table (entries : List Entry) : List (Data × Data) :=
  entries.foldl (fun t e => Data.put e.key.data e.value.data t) []

end Entry

def wrongNode (wanted : String) (kind : Kind) (mark : Mark) : Fault :=
  .malformed (.expectedNode wanted kind) mark

namespace Tag

/-- What comes of a node whose kind does not fit its tag. -/
def unfit (tag : Tag) (mark : Mark) (kind : Kind) : Outcome :=
  match tag with
  | .seq => .collection (some (wrongNode "a sequence node" kind mark)) [] (.list [])
  | .omap | .pairs => .collection (some (wrongNode "a sequence" kind mark)) [] (.list [])
  | .map => .collection (some (wrongNode "a mapping node" kind mark)) [] (.map [])
  | .set => .collection (some (wrongNode "a mapping node" kind mark)) [] (.set [])
  | .merge | .value | .other _ => .failed (.malformed (.unknownTag tag.name) mark)
  | _ => .failed (wrongNode "a scalar node" kind mark)

/-- The value of a collection inside itself: nothing of it is known there. -/
def hollow (tag : Tag) (mark : Mark) (kind : Kind) : Outcome :=
  match tag with
  | .seq | .omap | .pairs => ⟨none, [], .list []⟩
  | .map => ⟨none, [], .map []⟩
  | .set => ⟨none, [], .set []⟩
  | _ => unfit tag mark kind

def isCollection : Tag → Bool
  | .seq | .omap | .pairs | .map | .set | .merge | .value | .other _ => true
  | _ => false

/-- The value of a text under the tag of a scalar. -/
def scalarValue (tag : Tag) (mark : Mark) (text : String) : Except Fault Data :=
  match tag with
  | .null => .ok .null
  | .bool => (Scalar.truth text).map .bool |>.mapError .scalar
  | .int => (Scalar.integer text).map .int |>.mapError .scalar
  | .float => (Scalar.float text).map .float |>.mapError .scalar
  | .timestamp => (Scalar.stamp text).mapError .scalar
  | .binary => (Scalar.octets text).map .octets |>.mapError fun problem => .malformed problem mark
  | _ => .ok (.text text)

end Tag

namespace Node

/-- The text of a node: a mapping stands for the value under its value key. -/
def text : Node → Except Fault String
  | .scalar _ _ _ text => .ok text
  | .mapping _ mark _ entries => valueText mark entries
  | node => .error (wrongNode "a scalar node" node.kind node.mark)
where
  valueText (mark : Mark) : List (Node × Node) → Except Fault String
    | [] => .error (wrongNode "a scalar node" .mapping mark)
    | (key, value) :: rest => if key.tag = .value then text value else valueText mark rest

mutual

/-- What comes of a node under a tag. -/
def outcomeAs (tag : Tag) : Node → Outcome
  | .scalar _ mark _ text =>
    if tag.isCollection then tag.unfit mark .scalar else .leaf (tag.scalarValue mark text)
  | .sequence _ mark _ items =>
    match tag with
    | .seq => .sequence (outcomes items) .list
    | .omap | .pairs => .sequence (singles mark items) .list
    | _ => tag.unfit mark .sequence
  | .mapping id mark own entries =>
    match tag with
    | .map => table entries .map
    | .set => table entries fun pairs => .set (pairs.map Prod.fst)
    | _ =>
      if tag.isCollection then tag.unfit mark .mapping
      else .leaf (text (.mapping id mark own entries) >>= tag.scalarValue mark)
  | .again _ mark kind _ => tag.hollow mark kind

def outcomes : List Node → List Outcome
  | [] => []
  | node :: rest => outcomeAs node.tag node :: outcomes rest

/-- A mapping with its merges in front, or the fault of the merges. -/
def table (entries : List (Node × Node)) (build : List (Data × Data) → Data) : Outcome :=
  match merged entries with
  | .error fault => .collection (some fault) [] (build [])
  | .ok above =>
    let all := above ++ ownEntries entries
    .collection (all.findSome? Entry.fault?) (all.flatMap Entry.parts) (build (Entry.table all))

/-- The entries that are no merges; a value key counts as a text. -/
def ownEntries : List (Node × Node) → List Entry
  | [] => []
  | (key, value) :: rest =>
    if key.tag = .merge then ownEntries rest
    else
      let tag := if key.tag = .value then .str else key.tag
      ⟨key.mark, outcomeAs tag key, outcomeAs value.tag value⟩ :: ownEntries rest

/-- The entries that merges bring in. -/
def merged : List (Node × Node) → Except Fault (List Entry)
  | [] => .ok []
  | (key, value) :: rest =>
    if key.tag = .merge then do
      let first ← contribution value
      return first ++ (← merged rest)
    else merged rest

/-- What the value of a merge key brings in: of several mappings the first counts most. -/
def contribution : Node → Except Fault (List Entry)
  | .mapping _ _ _ entries => return (← merged entries) ++ ownEntries entries
  | .sequence _ _ _ items => contributions items
  | .again _ mark kind _ =>
    if kind = .scalar then
      .error (wrongNode "a mapping or list of mappings for merging" kind mark)
    else .ok []
  | .scalar _ mark .. => .error (wrongNode "a mapping or list of mappings for merging" .scalar mark)

def contributions : List Node → Except Fault (List Entry)
  | [] => .ok []
  | .mapping _ _ _ entries :: rest => do
    let first := (← merged entries) ++ ownEntries entries
    return (← contributions rest) ++ first
  | .again _ mark kind _ :: rest =>
    if kind = .mapping then contributions rest
    else .error (wrongNode "a mapping for merging" kind mark)
  | .sequence _ mark .. :: _ => .error (wrongNode "a mapping for merging" .sequence mark)
  | .scalar _ mark .. :: _ => .error (wrongNode "a mapping for merging" .scalar mark)

/-- Mappings with a single entry each, as pairs. -/
def singles (mark : Mark) : List Node → List Outcome
  | [] => []
  | .mapping _ at_ _ entries :: rest =>
    (match entries with
      | [(key, value)] =>
        let first := outcomeAs key.tag key
        let second := outcomeAs value.tag value
        ⟨first.opening.or second.opening, firstFaults first.later second.later,
          .tuple [first.data, second.data]⟩
      | _ => .failed (.malformed (.entryCount entries.length) at_)) :: singles mark rest
  | .again _ at_ kind _ :: _ => [.failed (wrongNode "a mapping of length 1" kind at_)]
  | .sequence _ at_ .. :: _ => [.failed (wrongNode "a mapping of length 1" .sequence at_)]
  | .scalar _ at_ .. :: _ => [.failed (wrongNode "a mapping of length 1" .scalar at_)]

end

/-! ## Circles -/

mutual

/-- Whether an alias stands inside the collection that it names. -/
def isCircular : Node → Bool
  | .scalar .. => false
  | .again .. => true
  | .sequence _ _ _ items => anyCircular items
  | .mapping _ _ _ entries => anyCircularEntry entries

def anyCircular : List Node → Bool
  | [] => false
  | node :: rest => isCircular node || anyCircular rest

def anyCircularEntry : List (Node × Node) → Bool
  | [] => false
  | (key, value) :: rest => isCircular key || isCircular value || anyCircularEntry rest

end

mutual

/-- Puts in place of an alias the collection around it that it names. -/
def expand (around : List (Nat × Node)) : Node → Node
  | .scalar id mark tag text => .scalar id mark tag text
  | .sequence id mark tag items =>
    .sequence id mark tag (expandAll ((id, .sequence id mark tag items) :: around) items)
  | .mapping id mark tag entries =>
    .mapping id mark tag (expandEntries ((id, .mapping id mark tag entries) :: around) entries)
  | .again id mark kind tag => (around.lookup id).getD (.again id mark kind tag)

def expandAll (around : List (Nat × Node)) : List Node → List Node
  | [] => []
  | node :: rest => expand around node :: expandAll around rest

def expandEntries (around : List (Nat × Node)) : List (Node × Node) → List (Node × Node)
  | [] => []
  | (key, value) :: rest => (expand around key, expand around value) :: expandEntries around rest

end

/-- How often a collection inside itself is followed. A message that shows such a value shows it as many
levels deep, without a mark for the circle. -/
def circleDepth : Nat := 6

/-- Follows circles a few times. -/
def unfold (node : Node) : Node :=
  if node.isCircular then circleDepth.repeat (expand []) node else node

/-- The value of a node, or its first fault. -/
def data (node : Node) : Except Fault Data :=
  let outcome := node.unfold.outcomeAs node.tag
  match outcome.opening.or (outcome.later.findSome? fun fault => fault) with
  | some fault => .error fault
  | none => .ok outcome.data

end Node

end Triage.Yaml
