import Triage.Yaml.Node
import Triage.Yaml.Token.Stream

/-!
# Nodes from tokens

The tokens of a document are read by descent into the nodes. Where a node is missing, an empty scalar
stands. Properties in front of a node name it and give its tag. A fault of the tokens counts only once
the reading has come to it. Nodes are read however deep they are nested: no stack runs out here.
-/

namespace Triage.Yaml

namespace Assembly

structure State where
  tokens : List Token
  /-- What ends the tokens. -/
  fault : Option Fault
  /-- The number of the next node. -/
  next : Nat
  anchors : List (String × Node)
  handles : List (String × String)

abbrev Reader := StateT State (Except Fault)

/-- The tag handles of a document that gives none. -/
def standardHandles : List (String × String) := [("!", "!"), ("!!", standardTags)]

def peek : Reader Token := do
  match (← get).tokens with
  | token :: _ => return token
  | [] => throw ((← get).fault.getD (.malformed .endOfStream ⟨0, 0, 0⟩))

def content : Reader Content := return (← peek).content

def forward : Reader Unit := modify fun s => { s with tokens := s.tokens.tail }

def fail {α : Type} (problem : Problem) (mark : Mark) : Reader α := throw (.malformed problem mark)

/-- Stops because another token was wanted. -/
def failWanting {α : Type} (wanted : String) : Reader α := do
  let token ← peek
  fail (.expectedToken wanted token.content.name) token.start

def fresh : Reader Nat := do
  let n := (← get).next
  modify fun s => { s with next := n + 1 }
  return n

/-- Whether the next token is one of those given. -/
def atAny (cs : List Content) : Reader Bool := return cs.contains (← content)

/-! ## Properties -/

/-- What may stand in front of a node. -/
structure Properties where
  anchor : Option String
  /-- The tag as written, its handle resolved. -/
  tag : Option String
  /-- Where the node starts. -/
  start : Mark

def tagName (mark : Mark) : Option String → String → Reader String
  | none, tail => return tail
  | some handle, tail => do
    match (← get).handles.lookup handle with
    | some meaning => return meaning ++ tail
    | none => fail (.unknownHandle handle) mark

def takeTag : Reader (Option (Mark × Option String × String)) := do
  let token ← peek
  match token.content with
  | .tag handle tail =>
    forward
    return some (token.start, handle, tail)
  | _ => return none

def takeAnchor : Reader (Option (Mark × String)) := do
  let token ← peek
  match token.content with
  | .anchor name =>
    forward
    return some (token.start, name)
  | _ => return none

/-- An anchor and a tag in either order. -/
def properties : Reader (Option Properties) := do
  match ← takeAnchor with
  | some (start, name) =>
    match ← takeTag with
    | some (mark, handle, tail) => return some ⟨some name, some (← tagName mark handle tail), start⟩
    | none => return some ⟨some name, none, start⟩
  | none =>
    match ← takeTag with
    | some (mark, handle, tail) =>
      match ← takeAnchor with
      | some (_, name) => return some ⟨some name, some (← tagName mark handle tail), mark⟩
      | none => return some ⟨none, some (← tagName mark handle tail), mark⟩
    | none => return none

/-! ## Nodes -/

/-- Notes a node under its anchor. -/
def name (anchor : Option String) (node : Node) : Reader Unit :=
  match anchor with
  | some name => modify fun s => { s with anchors := (name, node) :: s.anchors }
  | none => return ()

/-- An anchor may stand in front of one node only. -/
def checkAnchor (anchor : Option String) (start : Mark) : Reader Unit := do
  match anchor with
  | some name => if ((← get).anchors.lookup name).isSome then fail .repeatedAnchor start
  | none => return ()

/-- The tag of a collection: the written one, or that of its kind. -/
def collectionTag (standard : Tag) : Option String → Tag
  | some "!" | none => standard
  | some name => .ofName name

/-- The tag of a scalar: the written one, or that of its form where it is plain or marked so. -/
def scalarTag (plain : Bool) (text : String) : Option String → Tag
  | some "!" => .ofForm text
  | none => if plain then .ofForm text else .str
  | some name => .ofName name

def newScalar (p : Properties) (plain : Bool) (text : String) : Reader Node := do
  checkAnchor p.anchor p.start
  let node := Node.scalar (← fresh) p.start (scalarTag plain text p.tag) text
  name p.anchor node
  return node

/-- The scalar of a place where nothing stands. -/
def empty (mark : Mark) : Reader Node := return .scalar (← fresh) mark .null ""

def reference (name : String) (mark : Mark) : Reader Node := do
  match (← get).anchors.lookup name with
  | some node => return node
  | none => fail (.unknownAlias name) mark

def newSequence (p : Properties) (items : Reader (List Node)) : Reader Node := do
  checkAnchor p.anchor p.start
  let id ← fresh
  let tag := collectionTag .seq p.tag
  name p.anchor (.again id p.start .sequence tag)
  let node := Node.sequence id p.start tag (← items)
  name p.anchor node
  return node

def newMapping (p : Properties) (entries : Reader (List (Node × Node))) : Reader Node := do
  checkAnchor p.anchor p.start
  let id ← fresh
  let tag := collectionTag .map p.tag
  name p.anchor (.again id p.start .mapping tag)
  let node := Node.mapping id p.start tag (← entries)
  name p.anchor node
  return node

/-- Nothing in front of a node. -/
def bare (mark : Mark) : Properties := ⟨none, none, mark⟩

/-! ## Collections

The readers of entries get the reader of nodes; it is told whether block collections are allowed, and
whether entries may stand without indentation. -/

variable (node : (block indentless : Bool) → Reader Node)

/-- The node behind a token, or an empty scalar before one of the tokens given. -/
def behind (token : Token) (ends : List Content) (block indentless : Bool) : Reader Node := do
  if ← atAny ends then empty token.stop else node block indentless

/-- The value of an entry whose key has been read. -/
def entryValue (ends : List Content) (block indentless : Bool) : Reader Node := do
  let token ← peek
  if token.content = .value then
    forward
    behind node token ends block indentless
  else empty token.start

def blockEntries : Nat → Reader (List Node)
  | 0 => return []
  | fuel + 1 => do
    let token ← peek
    if token.content = .blockEntry then
      forward
      let item ← behind node token [.blockEntry, .blockEnd] true false
      return item :: (← blockEntries fuel)
    else if token.content = .blockEnd then
      forward
      return []
    else failWanting "<block end>"

def indentlessEntries : Nat → Reader (List Node)
  | 0 => return []
  | fuel + 1 => do
    let token ← peek
    if token.content = .blockEntry then
      forward
      let item ← behind node token [.blockEntry, .key, .value, .blockEnd] true false
      return item :: (← indentlessEntries fuel)
    else return []

def blockPairs : Nat → Reader (List (Node × Node))
  | 0 => return []
  | fuel + 1 => do
    let token ← peek
    let ends := [Content.key, .value, .blockEnd]
    if token.content = .key then
      forward
      let key ← behind node token ends true true
      let value ← entryValue node ends true true
      return (key, value) :: (← blockPairs fuel)
    else if token.content = .blockEnd then
      forward
      return []
    else failWanting "<block end>"

/-- Requires a comma between the entries of a flow collection. -/
def comma (first : Bool) (wanted : String) : Reader Unit := do
  if first then return ()
  else
    let token ← peek
    if token.content = .flowEntry then forward
    else fail (.gotToken wanted token.content.name) token.start

def flowItems : Nat → Bool → Reader (List Node)
  | 0, _ => return []
  | fuel + 1, first => do
    if (← content) = .flowSequenceEnd then
      forward
      return []
    else
      comma first "',' or ']'"
      let token ← peek
      if token.content = .key then
        forward
        let pair : Reader (List (Node × Node)) := do
          let key ← behind node token [.value, .flowEntry, .flowSequenceEnd] false false
          let value ← entryValue node [.flowEntry, .flowSequenceEnd] false false
          return [(key, value)]
        let item ← newMapping (bare token.start) pair
        return item :: (← flowItems fuel false)
      else if token.content = .flowSequenceEnd then
        forward
        return []
      else
        let item ← node false false
        return item :: (← flowItems fuel false)

def flowPairs : Nat → Bool → Reader (List (Node × Node))
  | 0, _ => return []
  | fuel + 1, first => do
    if (← content) = .flowMappingEnd then
      forward
      return []
    else
      comma first "',' or '\x7d'"
      let token ← peek
      if token.content = .key then
        forward
        let key ← behind node token [.value, .flowEntry, .flowMappingEnd] false false
        let value ← entryValue node [.flowEntry, .flowMappingEnd] false false
        return (key, value) :: (← flowPairs fuel false)
      else if token.content = .flowMappingEnd then
        forward
        return []
      else
        let key ← node false false
        let value ← empty (← peek).start
        return (key, value) :: (← flowPairs fuel false)

end Assembly

open Assembly in
/-- Reads a node; `depth` bounds the nesting and the number of entries. -/
def Node.read (depth : Nat) (block indentless : Bool) : Reader Node :=
  match depth with
  | 0 => do fail .endOfStream (← peek).start
  | depth + 1 => do
    let inner := Node.read depth
    let token ← peek
    match token.content with
    | .reference name =>
      forward
      reference name token.start
    | _ =>
      let given ← properties
      let token ← peek
      let p := given.getD (bare token.start)
      match token.content, block, indentless with
      | .blockEntry, _, true => newSequence p (indentlessEntries inner depth)
      | .scalar text plain, _, _ =>
        forward
        newScalar p plain text
      | .flowSequenceStart, _, _ => newSequence p (do forward; flowItems inner depth true)
      | .flowMappingStart, _, _ => newMapping p (do forward; flowPairs inner depth true)
      | .blockSequenceStart, true, _ => newSequence p (do forward; blockEntries inner depth)
      | .blockMappingStart, true, _ => newMapping p (do forward; blockPairs inner depth)
      | _, _, _ =>
        if given.isSome then newScalar p (p.tag.isNone) ""
        else failWanting "the node content"

namespace Assembly

/-! ## Documents -/

def skipEnds : Nat → Reader Unit
  | 0 => return ()
  | fuel + 1 => do
    if (← content) = .documentEnd then
      forward
      skipEnds fuel

/-- The directives in front of a document. -/
def directives (version : Bool) (given : List (String × String)) : Nat → Reader Unit
  | 0 => return ()
  | fuel + 1 => do
    let token ← peek
    match token.content with
    | .directive d =>
      forward
      match d with
      | .version major _ =>
        if version then fail .repeatedVersion token.start
        else if major != 1 then fail .version token.start
        else directives true given fuel
      | .tag handle meaning =>
        if (given.lookup handle).isSome then fail (.repeatedHandle handle) token.start
        else directives version (given ++ [(handle, meaning)]) fuel
      | .other => directives version given fuel
    | _ => modify fun s => { s with handles := given ++ standardHandles }

/-- The start of a document with a mark of its own: the place of its first token, if there is one. -/
def documentStart (fuel : Nat) : Reader (Option Mark) := do
  skipEnds fuel
  let token ← peek
  if token.content = .streamEnd then return none
  else
    directives false [] fuel
    if (← content) = .documentStart then return some token.start
    else failWanting "'<document start>'"

/-- Nothing but ends may follow the document. -/
def finish (fuel : Nat) (root : Node) : Reader (Option Node) := do
  if (← content) = .documentEnd then forward
  match ← documentStart fuel with
  | some mark => fail .secondDocument mark
  | none => return some root

/-- The only document of a stream, if there is one. -/
def single (fuel : Nat) : Reader (Option Node) := do
  forward
  match ← content with
  | .directive _ | .documentStart | .streamEnd =>
    match ← documentStart fuel with
    | none => return none
    | some _ =>
      forward
      let token ← peek
      match token.content with
      | .directive _ | .documentStart | .documentEnd | .streamEnd => finish fuel (← empty token.start)
      | _ => finish fuel (← Node.read fuel true false)
  | _ =>
    modify fun s => { s with handles := standardHandles }
    finish fuel (← Node.read fuel true false)

end Assembly

/-- The node of a text that holds at most one document. -/
def Node.ofText (s : String) : Except Fault (Option Node) := do
  let (tokens, fault) := Yaml.tokens s.toList
  let fuel := 3 * tokens.length + 10
  let (node, _) ← (Assembly.single fuel).run ⟨tokens, fault, 0, [], []⟩
  return node

end Triage.Yaml
