import Triage.Pattern.Reading

/-!
# Matching

A tree is matched against a text from a position on. What follows is given as a continuation, so a
later failure comes back to the last choice. A repetition takes no further optional turn from the place
where its last optional turn began. A search tries every position in turn.
-/

namespace Triage.Pattern

/-- The spans of the groups that have matched. -/
abbrev Captures := List (Nat × Nat × Nat)

/-- Where a match ends, with its groups. -/
abbrev Outcome := Option (Nat × Captures)

/-- What is to be matched next. -/
abbrev Next := Nat → Captures → Outcome

namespace SetItem

def accepts (folding : Text.Folding) (ascii : Bool) (c : Char) : SetItem → Bool
  | .char code => folding.equal code c
  | .range low high => folding.inRange low high c
  | .cls members negated => members.contains ascii c != negated

end SetItem

namespace CharTest

def accepts (c : Char) : CharTest → Bool
  | .any newline => newline || c != '\n'
  | .set negated folding ascii items => items.any (SetItem.accepts folding ascii c) != negated

end CharTest

/-- A text as an array of characters. -/
abbrev Subject := Array Char

namespace Subject

/-- Whether there is a word character at a position. -/
def wordAt (s : Subject) (ascii : Bool) (pos : Nat) : Bool :=
  (s[pos]?.map (CharClass.word.contains ascii)).getD false

/-- Whether one word character and no other stands at the two sides of a position. -/
def wordEdge (s : Subject) (ascii : Bool) (pos : Nat) : Bool :=
  (pos != 0 && s.wordAt ascii (pos - 1)) != s.wordAt ascii pos

def lineFeedAt (s : Subject) (pos : Nat) : Bool := s[pos]? == some '\n'

end Subject

namespace Anchor

/-- In an empty text there is neither a boundary nor an inside. -/
def holds (s : Subject) (pos : Nat) : Anchor → Bool
  | .start | .textStart => pos == 0
  | .lineStart => pos == 0 || s.lineFeedAt (pos - 1)
  | .finish => pos == s.size || (pos + 1 == s.size && s.lineFeedAt pos)
  | .lineEnd => pos == s.size || s.lineFeedAt pos
  | .textEnd => pos == s.size
  | .boundary ascii => s.size != 0 && s.wordEdge ascii pos
  | .inside ascii => s.size != 0 && !s.wordEdge ascii pos

end Anchor

def within (count : Nat) (most : Option Nat) : Bool :=
  match most with
  | none => true
  | some n => count < n

/-- As many turns as possible; `last` is where the last optional turn began. -/
def greedyTurns (turn : Nat → Captures → Next → Outcome) (least : Nat) (most : Option Nat)
    (next : Next) : Nat → Nat → Option Nat → Nat → Captures → Outcome
  | 0, _, _, pos, caps => next pos caps
  | fuel + 1, count, last, pos, caps =>
    if count < least then
      turn pos caps fun pos caps => greedyTurns turn least most next fuel (count + 1) last pos caps
    else if within count most && last != some pos then
      match turn pos caps fun p c => greedyTurns turn least most next fuel (count + 1) (some pos) p c with
      | some found => some found
      | none => next pos caps
    else next pos caps

/-- As few turns as possible. -/
def lazyTurns (turn : Nat → Captures → Next → Outcome) (least : Nat) (most : Option Nat)
    (next : Next) : Nat → Nat → Option Nat → Nat → Captures → Outcome
  | 0, _, _, pos, caps => next pos caps
  | fuel + 1, count, last, pos, caps =>
    if count < least then
      turn pos caps fun pos caps => lazyTurns turn least most next fuel (count + 1) last pos caps
    else
      match next pos caps with
      | some found => some found
      | none =>
        if within count most && last != some pos then
          turn pos caps fun p c => lazyTurns turn least most next fuel (count + 1) (some pos) p c
        else none

/-- Turns that are never taken back. -/
def firmTurns (turn : Nat → Captures → Next → Outcome) (least : Nat) (most : Option Nat) :
    Nat → Nat → Option Nat → Nat → Captures → Outcome
  | 0, _, _, pos, caps => some (pos, caps)
  | fuel + 1, count, last, pos, caps =>
    if count < least then
      match turn pos caps fun p c => some (p, c) with
      | some (p, c) => firmTurns turn least most fuel (count + 1) last p c
      | none => none
    else if within count most && last != some pos then
      match turn pos caps fun p c => some (p, c) with
      | some (p, c) => firmTurns turn least most fuel (count + 1) (some pos) p c
      | none => some (pos, caps)
    else some (pos, caps)

/-- How many characters from a position on pass a test, up to a bound. -/
def runLength (s : Subject) (test : CharTest) : Nat → Nat → Nat
  | 0, _ => 0
  | bound + 1, pos =>
    match s[pos]? with
    | some c => if test.accepts c then runLength s test bound (pos + 1) + 1 else 0
    | none => 0

/-- Continues behind `least + extra` characters, then behind fewer, down to `least`. -/
def descend (next : Nat → Outcome) (least : Nat) : Nat → Outcome
  | 0 => next least
  | extra + 1 =>
    match next (least + (extra + 1)) with
    | some found => some found
    | none => descend next least extra

/-- Whether the text between two positions stands again at a third. -/
def repeatsAt (s : Subject) (folding : Text.Folding) (start pos : Nat) : Nat → Bool
  | 0 => true
  | count + 1 =>
    match s[start]?, s[pos]? with
    | some a, some b => folding.sameLower a b && repeatsAt s folding (start + 1) (pos + 1) count
    | _, _ => false

namespace Node

/-- Matches a tree from a position on, then what follows. -/
def run (s : Subject) : Node → Nat → Captures → Next → Outcome
  | .empty, pos, caps, next => next pos caps
  | .one test, pos, caps, next =>
    match s[pos]? with
    | some c => if test.accepts c then next (pos + 1) caps else none
    | none => none
  | .seq first second, pos, caps, next =>
    run s first pos caps fun pos caps => run s second pos caps next
  | .alt first second, pos, caps, next =>
    match run s first pos caps next with
    | some found => some found
    | none => run s second pos caps next
  | .group index body, pos, caps, next =>
    match index with
    | none => run s body pos caps next
    | some index => run s body pos caps fun stop caps => next stop ((index, pos, stop) :: caps)
  | .atomic body, pos, caps, next =>
    match run s body pos caps fun pos caps => some (pos, caps) with
    | some (pos, caps) => next pos caps
    | none => none
  | .loop greed least most body, pos, caps, next =>
    let turn := fun pos caps next => run s body pos caps next
    let fuel := least + (s.size - pos) + 2
    match greed with
    | .greedy =>
      match body with
      | .one test =>
        let bound := match most with
          | some n => min n (s.size - pos)
          | none => s.size - pos
        let count := runLength s test bound pos
        if count < least then none
        else descend (fun count => next (pos + count) caps) least (count - least)
      | _ => greedyTurns turn least most next fuel 0 none pos caps
    | .lazy => lazyTurns turn least most next fuel 0 none pos caps
    | .possessive =>
      match firmTurns turn least most fuel 0 none pos caps with
      | some (pos, caps) => next pos caps
      | none => none
  | .look behind negated body, pos, caps, next =>
    let back := if behind then body.width.1 else 0
    let found := if back ≤ pos then run s body (pos - back) caps fun pos caps => some (pos, caps)
      else none
    if negated then
      match found with
      | some _ => none
      | none => next pos caps
    else
      match found with
      | some (_, caps) => next pos caps
      | none => none
  | .backref index _ _ folding, pos, caps, next =>
    match caps.lookup index with
    | none => none
    | some (start, stop) =>
      let count := stop - start
      if repeatsAt s folding start pos count then next (pos + count) caps else none
  | .conditional index yes no, pos, caps, next =>
    if (caps.lookup index).isSome then run s yes pos caps next else run s no pos caps next
  | .anchor place, pos, caps, next => if place.holds s pos then next pos caps else none
  | .refused .., _, _, _ => none

/-- Whether the tree matches from some position on; `count` positions are left to try. -/
def searchFrom (node : Node) (s : Subject) : Nat → Nat → Bool
  | 0, pos => (node.run s pos [] fun pos caps => some (pos, caps)).isSome
  | count + 1, pos =>
    (node.run s pos [] fun pos caps => some (pos, caps)).isSome || searchFrom node s count (pos + 1)

end Node

/-- Whether a pattern matches somewhere in a text. -/
def Node.search (node : Node) (text : String) : Bool :=
  let s : Subject := text.toList.toArray
  node.searchFrom s s.size 0

/-- Reads a pattern without regard to case and searches for it. -/
def search (pattern text : String) : Except Fault Bool := do
  let node ← read { ignoreCase := true } pattern
  return node.search text

end Triage.Pattern
