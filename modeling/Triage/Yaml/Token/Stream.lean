import Triage.Yaml.Token.Scalar

/-!
# The token stream

Tokens are found one step after the other. A scalar, an alias, a property or a flow collection may turn
out to be a key when a colon follows on its line within 1024 characters; until then it is pending, and
neither it nor anything behind it is released. A fault ends the stream behind the released tokens.
-/

namespace Triage.Yaml

/-- A token that may turn out to be a key. -/
structure PendingKey where
  /-- The number of tokens before it. -/
  place : Nat
  /-- It is the first of its line in a block, so it has to be a key. -/
  required : Bool
  mark : Mark

structure Stream where
  cursor : Cursor
  tokens : Array Token
  /-- The depth of flow collections. -/
  flow : Int
  /-- The column of the innermost block collection, and those around it. -/
  indent : Int
  outer : List Int
  keyAllowed : Bool
  /-- Pending keys by depth. -/
  pending : List (Int × PendingKey)
  finished : Bool

namespace Stream

def start (cs : List Char) : Stream where
  cursor := .ofChars cs
  tokens := #[⟨.streamStart, ⟨0, 0, 0⟩, ⟨0, 0, 0⟩⟩]
  flow := 0
  indent := -1
  outer := []
  keyAllowed := true
  pending := []
  finished := false

def mark (s : Stream) : Mark := s.cursor.mark

def column (s : Stream) : Int := s.cursor.mark.column

def inBlock (s : Stream) : Bool := s.flow == 0

def fail {α : Type} (s : Stream) (problem : Problem) : Except Fault α :=
  .error (.malformed problem s.mark)

/-- The number of released tokens. -/
def released (s : Stream) : Nat :=
  s.pending.foldl (fun n entry => min n entry.2.place) s.tokens.size

/-- Adds a token without extent. -/
def push (s : Stream) (content : Content) : Stream :=
  { s with tokens := s.tokens.push ⟨content, s.mark, s.mark⟩ }

/-- Adds a token and walks over its characters. -/
def take (s : Stream) (content : Content) (length : Nat) : Stream :=
  let after := s.cursor.skip length
  { s with cursor := after, tokens := s.tokens.push ⟨content, s.mark, after.mark⟩ }

/-- Adds the token that a reading gives. -/
def read (s : Stream) (scan : Scan Content) : Except Fault Stream := do
  let (content, after) ← scan.run s.cursor
  return { s with cursor := after, tokens := s.tokens.push ⟨content, s.mark, after.mark⟩ }

/-! ## Pending keys -/

def isStale (s : Stream) (key : PendingKey) : Bool :=
  key.mark.line != s.mark.line || 1024 < s.mark.index - key.mark.index

/-- Drops pending keys that are on an earlier line or too far back. -/
def dropStale (s : Stream) : Except Fault Stream :=
  if s.pending.any fun entry => s.isStale entry.2 && entry.2.required then s.fail .missingColon
  else .ok { s with pending := s.pending.filter fun entry => !s.isStale entry.2 }

/-- Drops the pending key of the current depth. -/
def dropKey (s : Stream) : Except Fault Stream :=
  if s.pending.any fun entry => entry.1 == s.flow && entry.2.required then s.fail .missingColon
  else .ok { s with pending := s.pending.filter fun entry => entry.1 != s.flow }

/-- Makes the next token pending where a key may stand. -/
def saveKey (s : Stream) : Except Fault Stream := do
  if s.keyAllowed then
    let required := s.inBlock && s.indent == s.column
    let place := s.tokens.size
    let cleared ← s.dropKey
    return { cleared with pending := cleared.pending ++ [(s.flow, ⟨place, required, s.mark⟩)] }
  else return s

/-! ## Indentation -/

/-- Ends the block collections to the right of a column. -/
def unwind (s : Stream) (column : Int) : Stream :=
  if s.inBlock then close s s.outer else s
where
  close (s : Stream) : List Int → Stream
    | [] => s
    | next :: rest =>
      if column < s.indent then close { s.push .blockEnd with indent := next, outer := rest } rest
      else s

/-- Starts a block collection if the column lies to the right of the innermost one. -/
def indentTo (s : Stream) (column : Int) : Option Stream :=
  if s.indent < column then some { s with indent := column, outer := s.indent :: s.outer } else none

/-- Starts a block collection at the current column where it is deeper. -/
def openBlock (s : Stream) (content : Content) : Stream :=
  match s.indentTo s.column with
  | some deeper => deeper.push content
  | none => s

/-! ## Steps -/

/-- Blanks and a comment; whether a break ends the line. -/
def gap : Scan Bool := do
  Scan.skipWhile (· == ' ')
  if (← Scan.peek) == '#' then Scan.skipWhile (!isBreakOrEnd ·)
  return !(← Scan.lineBreak).isEmpty

/-- Blanks, comments and breaks; in a block a key may stand behind a break. -/
def skipGaps (s : Stream) : Except Fault Stream :=
  let first := if s.mark.index = 0 && s.cursor.peek == '\uFEFF' then { s with cursor := s.cursor.next } else s
  go (first.cursor.rest.length + 1) first
where
  go : Nat → Stream → Except Fault Stream
    | 0, s => .ok s
    | fuel + 1, s => do
      let (found, after) ← gap.run s.cursor
      let s := { s with cursor := after }
      if found then go fuel { s with keyAllowed := s.keyAllowed || s.inBlock } else return s

def finish (s : Stream) : Except Fault Stream := do
  let s ← (s.unwind (-1)).dropKey
  return { s.push .streamEnd with keyAllowed := false, pending := [], finished := true }

def directive (s : Stream) : Except Fault Stream := do
  let s ← (s.unwind (-1)).dropKey
  ({ s with keyAllowed := false }).read (.directive <$> Scan.directive)

def documentMark (s : Stream) (content : Content) : Except Fault Stream := do
  let s ← (s.unwind (-1)).dropKey
  return ({ s with keyAllowed := false }).take content 3

def flowStart (s : Stream) (content : Content) : Except Fault Stream := do
  let s ← s.saveKey
  return ({ s with flow := s.flow + 1, keyAllowed := true }).take content 1

def flowEnd (s : Stream) (content : Content) : Except Fault Stream := do
  let s ← s.dropKey
  return ({ s with flow := s.flow - 1, keyAllowed := false }).take content 1

def flowEntry (s : Stream) : Except Fault Stream := do
  let s ← ({ s with keyAllowed := true }).dropKey
  return s.take .flowEntry 1

def blockEntry (s : Stream) : Except Fault Stream := do
  if s.inBlock && !s.keyAllowed then s.fail .entryNotAllowed
  else
    let s := if s.inBlock then s.openBlock .blockSequenceStart else s
    let s ← ({ s with keyAllowed := true }).dropKey
    return s.take .blockEntry 1

def key (s : Stream) : Except Fault Stream := do
  if s.inBlock && !s.keyAllowed then s.fail .keyNotAllowed
  else
    let s := if s.inBlock then s.openBlock .blockMappingStart else s
    let s ← ({ s with keyAllowed := s.inBlock }).dropKey
    return s.take .key 1

/-- Inserts the mark of a key before the token that has turned out to be one. -/
def confirmKey (s : Stream) (key : PendingKey) : Stream :=
  let s := { s with
    pending := s.pending.filter fun entry => entry.1 != s.flow
    tokens := s.tokens.insertIdxIfInBounds key.place ⟨.key, key.mark, key.mark⟩
    keyAllowed := false }
  if s.inBlock then
    match s.indentTo key.mark.column with
    | some deeper => { deeper with
        tokens := deeper.tokens.insertIdxIfInBounds key.place ⟨.blockMappingStart, key.mark, key.mark⟩ }
    | none => s
  else s

def value (s : Stream) : Except Fault Stream := do
  match s.pending.lookup s.flow with
  | some key => return (s.confirmKey key).take .value 1
  | none =>
    if s.inBlock && !s.keyAllowed then s.fail .valueNotAllowed
    else
      let s := if s.inBlock then s.openBlock .blockMappingStart else s
      let s ← ({ s with keyAllowed := s.inBlock }).dropKey
      return s.take .value 1

/-- A token that may be a key. -/
def candidate (s : Stream) (scan : Scan Content) : Except Fault Stream := do
  let s ← s.saveKey
  ({ s with keyAllowed := false }).read scan

def plain (s : Stream) : Except Fault Stream := do
  let s ← s.saveKey
  let ((content, crossed), after) ← (Scan.plain (!s.inBlock) (s.indent + 1)).run s.cursor
  return { s with
    cursor := after
    tokens := s.tokens.push ⟨content, s.mark, after.mark⟩
    keyAllowed := crossed }

def block (s : Stream) (fold : Bool) : Except Fault Stream := do
  let s ← ({ s with keyAllowed := true }).dropKey
  s.read (Scan.block fold s.indent)

/-- Whether a plain scalar can start here. -/
def startsPlain (s : Stream) : Bool :=
  let c := s.cursor.peek
  let next := s.cursor.peekAt 1
  !(isSpaceOrEnd c || "-?:,[]\x7b\x7d#&*!|>'\"%@\x60".toList.contains c)
    || (!isSpaceOrEnd next && (c == '-' || (s.inBlock && (c == '?' || c == ':'))))

/-- Passes over gaps, and drops the keys that have become stale. -/
def approach (s : Stream) : Except Fault Stream := do (← s.skipGaps).dropStale

/-- Finds the token that starts at the current place. -/
def dispatch (s : Stream) : Except Fault Stream :=
  let c := s.cursor.peek
  let gapNext := isSpaceOrEnd (s.cursor.peekAt 1)
  let lineStart := s.cursor.mark.column == 0
  if c == '\x00' then s.finish
  else if c == '%' && lineStart then s.directive
  else if lineStart && s.cursor.atIndicator '-' then s.documentMark .documentStart
  else if lineStart && s.cursor.atIndicator '.' then s.documentMark .documentEnd
  else if c == '[' then s.flowStart .flowSequenceStart
  else if c == '\x7b' then s.flowStart .flowMappingStart
  else if c == ']' then s.flowEnd .flowSequenceEnd
  else if c == '\x7d' then s.flowEnd .flowMappingEnd
  else if c == ',' then s.flowEntry
  else if c == '-' && gapNext then s.blockEntry
  else if c == '?' && (!s.inBlock || gapNext) then s.key
  else if c == ':' && (!s.inBlock || gapNext) then s.value
  else if c == '*' then s.candidate (.reference <$> Scan.anchorName)
  else if c == '&' then s.candidate (.anchor <$> Scan.anchorName)
  else if c == '!' then s.candidate Scan.tag
  else if c == '|' && s.inBlock then s.block false
  else if c == '>' && s.inBlock then s.block true
  else if c == '\'' then s.candidate (Scan.quoted false)
  else if c == '"' then s.candidate (Scan.quoted true)
  else if s.startsPlain then s.plain
  else s.fail (.noToken c)

/-- Finds the next tokens. -/
def fetch (s : Stream) : Except Fault Stream := do
  let s ← s.approach
  (s.unwind s.column).dispatch

/-- One step: the next tokens are found, and keys that have become stale are dropped. -/
def step (s : Stream) : Except Fault Stream := do
  (← s.fetch).dropStale

/-- Steps up to the end or to the first fault, with the tokens released before it. -/
def run : Nat → Stream → List Token × Option Fault
  | 0, s => (s.tokens.toList, none)
  | fuel + 1, s =>
    if s.finished then (s.tokens.toList, none)
    else match s.step with
      | .ok next => run fuel next
      | .error fault => (s.tokens.toList.take s.released, some fault)

end Stream

/-- The tokens of a document up to its first fault. -/
def tokens (cs : List Char) : List Token × Option Fault :=
  (Stream.start cs).run (cs.length + 2)

end Triage.Yaml
