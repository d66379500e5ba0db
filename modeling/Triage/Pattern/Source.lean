import Triage.Pattern.Problem

/-!
# Lexemes of a pattern

A pattern is read by lexemes: a character on its own, or a backslash with the character behind it. One
lexeme is always looked ahead, so a lone backslash at the end is found when the lexeme before it is
taken.
-/

namespace Triage.Pattern

inductive Lexeme where
  | plain (c : Char)
  | escaped (c : Char)
deriving Repr, DecidableEq

namespace Lexeme

def chars : Lexeme → List Char
  | .plain c => [c]
  | .escaped c => ['\\', c]

def length (l : Lexeme) : Nat := l.chars.length

def text (l : Lexeme) : String := String.ofList l.chars

end Lexeme

/-- A pattern with the place behind the lexeme that is looked ahead. -/
structure Source where
  chars : Array Char
  index : Nat
  next : Option Lexeme

namespace Source

def text (s : Source) : String := String.ofList s.chars.toList

def fault (s : Source) (problem : Problem) (position : Nat) : Fault :=
  .malformed problem position s.text

/-- Looks the next lexeme ahead. -/
def advance (s : Source) : Except Fault Source :=
  match s.chars[s.index]? with
  | none => .ok { s with next := none }
  | some '\\' =>
    match s.chars[s.index + 1]? with
    | none => .error (s.fault .escapeAtEnd (s.chars.size - 1))
    | some c => .ok { s with index := s.index + 2, next := some (.escaped c) }
  | some c => .ok { s with index := s.index + 1, next := some (.plain c) }

/-- The place in front of the lexeme that is looked ahead. -/
def position (s : Source) : Nat := s.index - (s.next.map Lexeme.length).getD 0

def ofString (s : String) : Except Fault Source :=
  advance ⟨s.toList.toArray, 0, none⟩

end Source

/-- The flags that a letter can set. -/
inductive FlagName where
  | ignoreCase
  | locale
  | multiline
  | dotAll
  | verbose
  | ascii
  | noRepeats
  | unicode
deriving DecidableEq

namespace FlagName

def ofLexeme? : Lexeme → Option FlagName
  | .plain 'i' => some .ignoreCase
  | .plain 'L' => some .locale
  | .plain 'm' => some .multiline
  | .plain 's' => some .dotAll
  | .plain 'x' => some .verbose
  | .plain 'a' => some .ascii
  | .plain 't' => some .noRepeats
  | .plain 'u' => some .unicode
  | _ => none

/-- Flags that choose the kind of text exclude each other. -/
def isKind : FlagName → Bool
  | .ascii | .unicode | .locale => true
  | _ => false

end FlagName

/-- How the characters of a pattern are to be understood. -/
structure Flags where
  ignoreCase : Bool := false
  multiline : Bool := false
  dotAll : Bool := false
  verbose : Bool := false
  ascii : Bool := false
  noRepeats : Bool := false
deriving Repr, DecidableEq

namespace Flags

def folding (f : Flags) : Text.Folding :=
  if !f.ignoreCase then .exact else if f.ascii then .ascii else .full

end Flags

/-- What is known while a pattern is read. -/
structure State where
  source : Source
  flags : Flags
  /-- The flags that the pattern sets for the whole of it. -/
  given : List FlagName
  /-- The width of each group, group zero first; an open group has none yet. -/
  widths : Array (Option (Nat × Nat))
  names : List (String × Nat)
  /-- Inside a look behind, the number of groups before it. -/
  lookBehind : Option Nat
  /-- The groups asked for by conditionals, with the place of the first mention. -/
  asked : List (Nat × Nat)

abbrev Reader := StateT State (Except Fault)

namespace Reader

def peek : Reader (Option Lexeme) := return (← get).source.next

def advance : Reader Unit := do
  let s ← get
  let source ← s.source.advance
  set { s with source := source }

/-- Takes the lexeme that is looked ahead. -/
def take : Reader (Option Lexeme) := do
  let this ← peek
  advance
  return this

def position : Reader Nat := return (← get).source.position

/-- Stops with a problem `back` characters before the current place. -/
def fail {α : Type} (problem : Problem) (back : Nat) : Reader α := do
  let s ← get
  throw (s.source.fault problem (s.source.position - back))

def accept (c : Char) : Reader Bool := do
  if (← peek) = some (.plain c) then
    advance
    return true
  else return false

/-- Takes up to `count` characters of a class. -/
def takeWhile (allowed : Char → Bool) : Nat → Reader (List Char)
  | 0 => return []
  | count + 1 => do
    match ← peek with
    | some (.plain c) =>
      if allowed c then
        advance
        return c :: (← takeWhile allowed count)
      else return []
    | _ => return []

/-- Takes a name up to its terminator; `fuel` bounds the number of lexemes. -/
def takeUntil (terminator : Char) (what : String) : Nat → List Char → Reader String
  | 0, _ => fail (.missingName what) 0
  | fuel + 1, done => do
    match ← take with
    | none =>
      if done.isEmpty then fail (.missingName what) 0
      else fail (.unterminatedName terminator.toString) done.length
    | some lexeme =>
      if lexeme = .plain terminator then
        if done.isEmpty then fail (.missingName what) 1
        else return String.ofList done
      else takeUntil terminator what fuel (done ++ lexeme.chars)

/-- The number of lexemes left is at most this. -/
def lexemesLeft : Reader Nat := return (← get).source.chars.size + 1

def name (terminator : Char) (what : String) : Reader String := do
  takeUntil terminator what (← lexemesLeft) []

/-- Goes back to a place. -/
def seek (index : Nat) : Reader Unit := do
  let s ← get
  let source ← ({ s.source with index := index } : Source).advance
  set { s with source := source }

end Reader

end Triage.Pattern
