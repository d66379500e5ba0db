import Triage.Yaml.Token.Property

/-!
# Scalars

Plain scalars end at a comment, at a mark of structure, or where the indentation falls back; quoted ones
at their quote. Single breaks inside both are read as a blank, further ones are kept. Block scalars keep
their breaks, or fold them where both neighbouring lines start with no space.
-/

namespace Triage.Yaml.Scan

def isSpace (c : Char) : Bool := c == ' ' || c == '\t'

/-! ## Quoted scalars -/

/-- Characters between quotes that stand for themselves in any case. -/
def isRun (c : Char) : Bool :=
  !(c == '\'' || c == '"' || c == '\\' || c == '\x00' || c == ' ' || c == '\t' || isBreak c)

/-- Escapes with one character. -/
def escapeChar? : Char → Option Char
  | '0' => some '\x00'
  | 'a' => some '\x07'
  | 'b' => some '\x08'
  | 't' | '\t' => some '\t'
  | 'n' => some '\n'
  | 'v' => some '\x0b'
  | 'f' => some '\x0c'
  | 'r' => some '\r'
  | 'e' => some '\x1b'
  | ' ' => some ' '
  | '"' => some '"'
  | '\\' => some '\\'
  | '/' => some '/'
  | 'N' => some '\x85'
  | '_' => some '\xa0'
  | 'L' => some '\u2028'
  | 'P' => some '\u2029'
  | _ => none

/-- The number of digits behind an escape for a code. -/
def escapeDigits? : Char → Option Nat
  | 'x' => some 2
  | 'u' => some 4
  | 'U' => some 8
  | _ => none

/-- Breaks and the spaces around them; a document separator must not stand at the start of a line. -/
def quotedBreaks : Nat → Scan (List Char)
  | 0 => return []
  | fuel + 1 => do
    if (← get).atSeparator then fail .documentSeparator
    else
      skipWhile isSpace
      if isBreak (← peek) then
        let b ← lineBreak
        return b ++ (← quotedBreaks fuel)
      else return []

/-- Folds one break with those after it. -/
def folded (first rest : List Char) : List Char :=
  if first != ['\n'] then first ++ rest
  else if rest.isEmpty then [' '] else rest

/-- The character of a code. Half of a pair has none and becomes the replacement character. -/
def codeChar (code : Nat) : Scan Char :=
  if 0x80000000 ≤ code then throw (.scalar .overflow)
  else if 0x10FFFF < code then throw (.scalar .character)
  else return if code.isValidChar then Char.ofNat code else '\uFFFD'

/-- An escape behind its backslash. -/
def escape : Scan (List Char) := do
  let c ← peek
  match escapeChar? c, escapeDigits? c with
  | some image, _ =>
    forward
    return [image]
  | none, some count =>
    forward
    let ds := (← get).rest.take count
    let good := ds.takeWhile isHex
    if good.length < count then fail (.escapeDigits count (← peekAt good.length))
    else
      let image ← codeChar (hexValue ds)
      skip count
      return [image]
  | none, none =>
    if isBreak c then
      let _ ← lineBreak
      quotedBreaks (← left)
    else fail (.unknownEscape c)

/-- What follows a run of characters before another one, given how to go on behind that. -/
def afterRun (double : Bool) (more : Scan (List Char)) (run : List Char) (c : Char) : Scan (List Char) := do
  if c == '\x00' then fail .endOfStream
  else if isSpace c || isBreak c then
    let spaces ← takeWhile isSpace
    let next ← peek
    if next == '\x00' then fail .endOfStream
    else if isBreak next then
      let first ← lineBreak
      let rest ← quotedBreaks (← left)
      return run ++ folded first rest ++ (← more)
    else return run ++ spaces ++ (← more)
  else if double then
    if c == '"' then return run
    else if c == '\\' then
      forward
      let image ← escape
      return run ++ image ++ (← more)
    else
      forward
      return run ++ c :: (← more)
  else if c == '\'' then
    if (← peekAt 1) == '\'' then
      skip 2
      return run ++ '\'' :: (← more)
    else return run
  else
    forward
    return run ++ c :: (← more)

/-- The characters of a quoted scalar up to its closing quote. -/
def quotedChars (double : Bool) : Nat → Scan (List Char)
  | 0 => return []
  | fuel + 1 => do
    let run ← takeWhile isRun
    afterRun double (quotedChars double fuel) run (← peek)

def quoted (double : Bool) : Scan Content := do
  forward
  let cs ← quotedChars double (← left)
  forward
  return .scalar (String.ofList cs) false

/-! ## Plain scalars -/

/-- Whether a plain scalar ends before a character, given the one behind it. -/
def endsPlain (flow : Bool) (c next : Char) : Bool :=
  isSpaceOrEnd c
    || (c == ':' && (isSpaceOrEnd next || (flow && ",[]\x7b\x7d".toList.contains next)))
    || (flow && ",?[]\x7b\x7d".toList.contains c)

/-- The characters up to the end of a plain scalar or the next space. -/
def plainWord (flow : Bool) : List Char → List Char
  | [] => []
  | c :: rest => if endsPlain flow c (rest.headD '\x00') then [] else c :: plainWord flow rest

/-- Breaks inside a plain scalar; nothing if a document separator comes. -/
def plainBreaks : Nat → Scan (Option (List Char))
  | 0 => return some []
  | fuel + 1 => do
    let c ← peek
    if c == ' ' then
      forward
      plainBreaks fuel
    else if isBreak c then
      let b ← lineBreak
      if (← get).atSeparator then return none
      else return (← plainBreaks fuel).map (b ++ ·)
    else return some []

/-- The spaces behind a word, and whether a line has ended. -/
def plainSpaces : Scan (List Char × Bool) := do
  let spaces ← takeWhile (· == ' ')
  if isBreak (← peek) then
    let first ← lineBreak
    if (← get).atSeparator then return ([], true)
    else
      match ← plainBreaks (← left) with
      | none => return ([], true)
      | some rest => return (folded first rest, true)
  else return (spaces, false)

/-- Words and the spaces between them; also says whether a line ended behind the last word. -/
def plainWords (flow : Bool) (indent : Int) : Nat → List Char → Scan (List Char × Bool)
  | 0, _ => return ([], false)
  | fuel + 1, spaces => do
    let word := plainWord flow (← get).rest
    skip word.length
    let (next, crossed) ← plainSpaces
    let c ← get
    let stops := next.isEmpty || c.peek == '#' || (!flow && (c.mark.column : Int) < indent)
      || (plainWord flow c.rest).isEmpty
    if stops then return (spaces ++ word, crossed)
    else
      let (more, crossed) ← plainWords flow indent fuel next
      return (spaces ++ word ++ more, crossed)

/-- A plain scalar, the place behind its last word, and whether a line ended after it. -/
def plain (flow : Bool) (indent : Int) : Scan (Content × Bool) := do
  let (cs, crossed) ← plainWords flow indent (← left) []
  return (.scalar (String.ofList cs) true, crossed)

/-! ## Block scalars -/

/-- What is kept at the end of a block scalar. -/
inductive Chomping where
  | clip
  | strip
  | keep
deriving DecidableEq

def chomping? : Char → Option Chomping
  | '+' => some .keep
  | '-' => some .strip
  | _ => none

def indentation : Scan (Option Nat) := do
  let c ← peek
  if c.isDigit then
    if c == '0' then fail .zeroIndentation
    else
      forward
      return some (c.toNat - 48)
  else return none

/-- The indicators behind the style, in either order. -/
def blockHeader : Scan (Chomping × Option Nat) := do
  let header ← match chomping? (← peek) with
    | some chomping => do
      forward
      pure (chomping, ← indentation)
    | none => do
      let increment ← indentation
      match increment, chomping? (← peek) with
      | some _, some chomping => do
        forward
        pure (chomping, increment)
      | _, _ => pure (.clip, increment)
  if isGapOrEnd (← peek) then return header
  else failWanting "chomping or indentation indicators"

/-- Blank lines before the text, with the greatest column reached. -/
def leadingBreaks : Nat → Nat → Scan (List Char × Nat)
  | 0, widest => return ([], widest)
  | fuel + 1, widest => do
    let c ← peek
    if c == ' ' then
      forward
      leadingBreaks fuel (max widest (← mark).column)
    else if isBreak c then
      let b ← lineBreak
      let (rest, widest) ← leadingBreaks fuel widest
      return (b ++ rest, widest)
    else return ([], widest)

/-- Blanks up to a column. -/
def skipIndent (indent : Nat) : Nat → Scan Unit
  | 0 => return
  | fuel + 1 => do
    if (← mark).column < indent && (← peek) == ' ' then
      forward
      skipIndent indent fuel

/-- Blank lines and the indentation behind them. -/
def blockBreaks (indent : Nat) : Nat → Scan (List Char)
  | 0 => return []
  | fuel + 1 => do
    skipIndent indent indent
    if isBreak (← peek) then
      let b ← lineBreak
      return b ++ (← blockBreaks indent fuel)
    else return []

/-- Lines of a block scalar: the text with the last break and the blank lines behind it apart. -/
def blockLines (fold : Bool) (indent : Nat) : Nat → List Char → Scan (List Char × List Char × List Char)
  | 0, breaks => return ([], [], breaks)
  | fuel + 1, breaks => do
    let open? := fun c : Cursor => c.mark.column == indent && c.peek != '\x00'
    if open? (← get) then
      let indented := isSpace (← peek)
      let line ← takeWhile (!isBreakOrEnd ·)
      let b ← lineBreak
      let more ← blockBreaks indent (← left)
      let c ← get
      if open? c then
        let joint :=
          if fold && b == ['\n'] && !indented && !isSpace c.peek then
            (if more.isEmpty then [' '] else [])
          else b
        let (rest, last, trailing) ← blockLines fold indent fuel more
        return (breaks ++ line ++ joint ++ rest, last, trailing)
      else return (breaks ++ line, b, more)
    else return ([], [], breaks)

/-- A block scalar below a given indentation. -/
def block (fold : Bool) (parent : Int) : Scan Content := do
  forward
  let (chomping, increment) ← blockHeader
  ignoreLine
  let least := max (parent + 1).toNat 1
  let (indent, breaks) ← match increment with
    | none => do
      let (breaks, widest) ← leadingBreaks (← left) 0
      pure (max least widest, breaks)
    | some increment => do
      let indent := least + increment - 1
      pure (indent, ← blockBreaks indent (← left))
  let (text, last, trailing) ← blockLines fold indent (← left) breaks
  let tail := match chomping with
    | .strip => []
    | .clip => last
    | .keep => last ++ trailing
  return .scalar (String.ofList (text ++ tail)) false

end Triage.Yaml.Scan
