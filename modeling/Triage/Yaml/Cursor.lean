import Triage.Yaml.Fault

/-!
# Walking through a document

A cursor holds the characters that are left and the place of the first of them. Behind the last
character stands a NUL. A line ends with a line feed, a carriage return with or without a line feed, a
next-line, a line or a paragraph separator.
-/

namespace Triage.Yaml

def isBreak (c : Char) : Bool :=
  c == '\n' || c == '\r' || c == '\x85' || c == '\u2028' || c == '\u2029'

def isBreakOrEnd (c : Char) : Bool := c == '\x00' || isBreak c

/-- A blank, a break or the end. -/
def isGapOrEnd (c : Char) : Bool := c == ' ' || isBreakOrEnd c

/-- A blank, a tab, a break or the end. -/
def isSpaceOrEnd (c : Char) : Bool := c == '\t' || isGapOrEnd c

/-- Characters of names. -/
def isNameChar (c : Char) : Bool := c.isAlphanum || c == '-' || c == '_'

/-- Characters that may stand in a document. -/
def isAcceptable (c : Char) : Bool :=
  let code := c.toNat
  code == 9 || code == 10 || code == 13 || (0x20 ≤ code && code ≤ 0x7E) || code == 0x85
    || (0xA0 ≤ code && code ≤ 0xD7FF) || (0xE000 ≤ code && code ≤ 0xFFFD) || 0x10000 ≤ code

structure Cursor where
  rest : List Char
  mark : Mark

namespace Mark

/-- The place behind a character, given the one that follows it. -/
def behind (m : Mark) (c next : Char) : Mark :=
  if c == '\n' || c == '\x85' || c == '\u2028' || c == '\u2029' || (c == '\r' && next != '\n') then
    ⟨m.index + 1, m.line + 1, 0⟩
  else if c == '\uFEFF' then { m with index := m.index + 1 }
  else { m with index := m.index + 1, column := m.column + 1 }

end Mark

namespace Cursor

def ofChars (cs : List Char) : Cursor := ⟨cs, ⟨0, 0, 0⟩⟩

def peek (c : Cursor) : Char := c.rest.headD '\x00'

def peekAt (c : Cursor) (k : Nat) : Char := c.rest.getD k '\x00'

def next (c : Cursor) : Cursor :=
  match c.rest with
  | [] => c
  | x :: rest => ⟨rest, c.mark.behind x (rest.headD '\x00')⟩

def skip (c : Cursor) : Nat → Cursor
  | 0 => c
  | count + 1 => c.next.skip count

/-- Walks on while characters belong to a class. -/
def skipWhile (p : Char → Bool) (mark : Mark) : List Char → Cursor
  | [] => ⟨[], mark⟩
  | x :: rest =>
    if p x then skipWhile p (mark.behind x (rest.headD '\x00')) rest else ⟨x :: rest, mark⟩

/-- A document indicator of three characters with a space, break or end behind it. -/
def atIndicator (c : Cursor) (mark : Char) : Bool :=
  c.peek == mark && c.peekAt 1 == mark && c.peekAt 2 == mark && isSpaceOrEnd (c.peekAt 3)

def atSeparator (c : Cursor) : Bool := c.atIndicator '-' || c.atIndicator '.'

end Cursor

/-- Reading with a cursor. -/
abbrev Scan := StateT Cursor (Except Fault)

namespace Scan

def peek : Scan Char := return (← get).peek

def peekAt (k : Nat) : Scan Char := return (← get).peekAt k

def mark : Scan Mark := return (← get).mark

def forward : Scan Unit := modify Cursor.next

def skip (count : Nat) : Scan Unit := modify (·.skip count)

/-- Takes the characters that belong to a class. -/
def takeWhile (p : Char → Bool) : Scan (List Char) := do
  let c ← get
  set (Cursor.skipWhile p c.mark c.rest)
  return c.rest.takeWhile p

def skipWhile (p : Char → Bool) : Scan Unit := do
  let _ ← takeWhile p

/-- The number of characters left, and one more. -/
def left : Scan Nat := return (← get).rest.length + 1

/-- Stops at the current place. -/
def fail {α : Type} (problem : Problem) : Scan α := do throw (.malformed problem (← mark))

/-- Stops because another character was wanted. -/
def failWanting {α : Type} (wanted : String) : Scan α := do fail (.unexpected wanted (← peek))

/-- Takes a break if there is one; all but the separators count as a line feed. -/
def lineBreak : Scan (List Char) := do
  let c ← get
  let first := c.peek
  if first == '\r' && c.peekAt 1 == '\n' then
    skip 2
    return ['\n']
  else if first == '\r' || first == '\n' || first == '\x85' then
    forward
    return ['\n']
  else if first == '\u2028' || first == '\u2029' then
    forward
    return [first]
  else return []

/-- Requires the rest of a line to be blank or a comment, and takes its break. -/
def ignoreLine : Scan Unit := do
  skipWhile (· == ' ')
  if (← peek) == '#' then skipWhile (!isBreakOrEnd ·)
  if isBreakOrEnd (← peek) then
    let _ ← lineBreak
  else failWanting "a comment or a line break"

end Scan

end Triage.Yaml
