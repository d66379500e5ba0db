import Triage.Decimal.Reading
import Triage.Text.Names
import Triage.Pattern.Source

/-!
# Reading patterns

A pattern is a list of alternatives, each a sequence of items; an item may be repeated. Flags are
resolved while reading: flags for the whole pattern stand at its start, flags for a group in front of
its body. References need their group to be closed, and inside a look behind it must stand outside.
-/

namespace Triage.Pattern

open Reader

/-- One character or one class, as it stands for itself or in a set. -/
inductive Piece where
  | code (n : Nat)
  | cls (c : CharClass) (negated : Bool)

namespace Piece

def item : Piece → SetItem
  | .code n => .char n
  | .cls c negated => .cls c negated

end Piece

/-- Escapes for controls and the backslash itself. -/
def controlEscape? : Char → Option Nat
  | 'a' => some 7
  | 'b' => some 8
  | 'f' => some 12
  | 'n' => some 10
  | 'r' => some 13
  | 't' => some 9
  | 'v' => some 11
  | '\\' => some 92
  | _ => none

def classEscape? : Char → Option (CharClass × Bool)
  | 'd' => some (.digit, false)
  | 'D' => some (.digit, true)
  | 's' => some (.space, false)
  | 'S' => some (.space, true)
  | 'w' => some (.word, false)
  | 'W' => some (.word, true)
  | _ => none

def anchorEscape? (ascii : Bool) : Char → Option Anchor
  | 'A' => some .textStart
  | 'b' => some (.boundary ascii)
  | 'B' => some (.inside ascii)
  | 'Z' => some .textEnd
  | _ => none

def isOctal (c : Char) : Bool := '0' ≤ c && c ≤ '7'

def isHex (c : Char) : Bool := (Decimal.digitOf? 16 c).isSome

def valueIn (base : Nat) (ds : List Char) : Nat :=
  ds.foldl (fun n c => n * base + (Decimal.digitOf? base c).getD 0) 0

def escapeText (c : Char) (ds : List Char) : String := String.ofList ('\\' :: c :: ds)

/-- An escape with a fixed number of hexadecimal digits. -/
def hexEscape (c : Char) (count : Nat) : Reader Nat := do
  let ds ← takeWhile isHex count
  if ds.length < count then fail (.incompleteEscape (escapeText c ds)) (ds.length + 2)
  else
    let value := valueIn 16 ds
    if 0x10FFFF < value then fail (.badEscape (escapeText c ds)) (ds.length + 2) else return value

/-- An escape by the name of a character. -/
def namedEscape : Reader Nat := do
  if ← accept '\x7b' then
    let called ← name '\x7d' "character name"
    match Text.characterNamed? called with
    | some code => return code
    | none => fail (.unknownCharacter called) (called.length + 4)
  else fail .missingBrace 0

/-- The escapes that a set and a sequence share. -/
def codeEscape? (c : Char) : Option (Reader Nat) :=
  match c with
  | 'x' => some (hexEscape c 2)
  | 'u' => some (hexEscape c 4)
  | 'U' => some (hexEscape c 8)
  | 'N' => some namedEscape
  | _ => none

/-- An octal value above the range of three digits is refused. -/
def octal (ds : List Char) : Reader Nat := do
  let value := valueIn 8 ds
  if 0xFF < value then
    fail (.octalRange (String.ofList ('\\' :: ds))) (ds.length + 1)
  else return value

def setEscape (c : Char) : Reader Piece := do
  match controlEscape? c, classEscape? c, codeEscape? c with
  | some code, _, _ => return .code code
  | none, some (cls, negated), _ => return .cls cls negated
  | none, none, some read => return .code (← read)
  | none, none, none =>
    if isOctal c then
      let more ← takeWhile isOctal 2
      return .code (← octal (c :: more))
    else if c.isDigit || c.isAlpha then fail (.badEscape (escapeText c [])) 2
    else return .code c.toNat

def groupClosed (index : Nat) : Reader Bool :=
  return ((← get).widths[index]?.bind id).isSome

/-- Inside a look behind a group must be closed and stand before it. -/
def checkLookBehind (index : Nat) : Reader Unit := do
  match (← get).lookBehind with
  | none => return
  | some before =>
    if !(← groupClosed index) then fail .openGroup 0
    else if before ≤ index then fail .sameLookBehind 0

def backreference (scope : Flags) (index : Nat) : Reader Node := do
  checkLookBehind index
  let (least, most) := ((← get).widths[index]?.bind id).getD (0, 0)
  return .backref index least most scope.folding

def literal (scope : Flags) (code : Nat) : Node :=
  .one (.set false scope.folding scope.ascii [.char code])

/-- Up to three digits that start with one to seven: an octal code or the number of a group. -/
def numberEscape (scope : Flags) (c : Char) : Reader Node := do
  let second ← takeWhile Char.isDigit 1
  let third ← if isOctal c && !second.isEmpty && second.all isOctal then takeWhile isOctal 1 else pure []
  if !third.isEmpty then return literal scope (← octal (c :: second ++ third))
  else
    let ds := c :: second
    let index := valueIn 10 ds
    if index < (← get).widths.size then
      if ← groupClosed index then backreference scope index
      else fail .openGroup (ds.length + 1)
    else fail (.groupReference index) ds.length

def itemEscape (scope : Flags) (c : Char) : Reader Node := do
  match anchorEscape? scope.ascii c, classEscape? c, controlEscape? c, codeEscape? c with
  | some place, _, _, _ => return .anchor place
  | none, some (cls, negated), _, _ => return .one (.set false scope.folding scope.ascii [.cls cls negated])
  | none, none, some code, _ => return literal scope code
  | none, none, none, some read => return literal scope (← read)
  | none, none, none, none =>
    if c == '0' then
      let more ← takeWhile isOctal 2
      return literal scope (valueIn 8 (c :: more))
    else if c.isDigit then numberEscape scope c
    else if c.isAlpha then fail (.badEscape (escapeText c [])) 2
    else return literal scope c.toNat

/-- A lexeme of a set as a piece. -/
def piece : Lexeme → Reader Piece
  | .escaped c => setEscape c
  | .plain c => return .code c.toNat

/-- The members of a set up to the closing bracket; `here` is the place of the opening one. -/
def setItems (here : Nat) : Nat → List SetItem → Reader (List SetItem)
  | 0, _ => fail .unterminatedSet 0
  | fuel + 1, done => do
    let unterminated : Reader (List SetItem) := do fail .unterminatedSet ((← position) - here)
    match ← take with
    | none => unterminated
    | some this =>
      if this = .plain ']' && !done.isEmpty then return done.reverse
      else
        let low ← piece this
        if ← accept '-' then
          match ← take with
          | none => unterminated
          | some (.plain ']') => return (.char 45 :: low.item :: done).reverse
          | some that =>
            let high ← piece that
            match low, high with
            | .code a, .code b =>
              if b < a then fail (.badRange this.text that.text) (this.length + 1 + that.length)
              else setItems here fuel (.range a b :: done)
            | _, _ => fail (.badRange this.text that.text) (this.length + 1 + that.length)
        else setItems here fuel (low.item :: done)

/-- A set behind its opening bracket. -/
def set' (scope : Flags) : Reader Node := do
  let here := (← position) - 1
  let negated ← accept '^'
  let items ← setItems here (← lexemesLeft) []
  return .one (.set negated scope.folding scope.ascii items)

def isLetter : Lexeme → Bool
  | .plain c => Text.isIdentifierStart c && c != '_'
  | .escaped _ => false

/-- The flags turned on and the lexeme that ends them. -/
def flagsOn : Nat → List FlagName → FlagName → Reader (List FlagName × Lexeme)
  | 0, _, _ => fail .flagsEnd 0
  | fuel + 1, on, flag => do
    if flag = .locale then fail .localeFlag 0
    else if flag.isKind && on.any (fun other => other.isKind && other != flag) then fail .flagConflict 0
    else
      let on := flag :: on
      match ← take with
      | none => fail .flagsEnd 0
      | some lexeme =>
        if lexeme = .plain ')' || lexeme = .plain '-' || lexeme = .plain ':' then return (on, lexeme)
        else match FlagName.ofLexeme? lexeme with
          | some next => flagsOn fuel on next
          | none => fail (if isLetter lexeme then .unknownFlag else .flagsEnd) lexeme.length

/-- The flags turned off, up to the colon. -/
def flagsOff : Nat → List FlagName → FlagName → Reader (List FlagName)
  | 0, _, _ => fail .missingColon 0
  | fuel + 1, off, flag => do
    if flag.isKind then fail .fixedFlagOff 0
    else
      let off := flag :: off
      match ← take with
      | none => fail .missingColon 0
      | some lexeme =>
        if lexeme = .plain ':' then return off
        else match FlagName.ofLexeme? lexeme with
          | some next => flagsOff fuel off next
          | none => fail (if isLetter lexeme then .unknownFlag else .missingColon) lexeme.length

namespace Flags

def turnOn (f : Flags) : FlagName → Flags
  | .ignoreCase => { f with ignoreCase := true }
  | .multiline => { f with multiline := true }
  | .dotAll => { f with dotAll := true }
  | .verbose => { f with verbose := true }
  | .ascii => { f with ascii := true }
  | .noRepeats => { f with noRepeats := true }
  | .unicode => { f with ascii := false }
  | .locale => f

def turnOff (f : Flags) : FlagName → Flags
  | .ignoreCase => { f with ignoreCase := false }
  | .multiline => { f with multiline := false }
  | .dotAll => { f with dotAll := false }
  | .verbose => { f with verbose := false }
  | _ => f

end Flags

/-- Reads inline flags: those of a group as changed from `scope`, or those of the whole pattern. -/
def inlineFlags (scope : Flags) (first : Lexeme) : Reader (Option Flags) := do
  let fuel ← lexemesLeft
  let (on, stop) ← match FlagName.ofLexeme? first with
    | some flag => flagsOn fuel [] flag
    | none => pure ([], first)
  if stop = .plain ')' then
    modify fun s => { s with flags := on.foldl Flags.turnOn s.flags, given := on ++ s.given }
    return none
  else if on.contains .noRepeats then fail .globalFlagOn 1
  else
    let off ← if stop = .plain '-' then do
        match ← take with
        | none => fail .missingFlag 0
        | some lexeme => match FlagName.ofLexeme? lexeme with
          | some flag => flagsOff fuel [] flag
          | none => fail (if isLetter lexeme then .unknownFlag else .missingFlag) lexeme.length
      else pure []
    if off.contains .noRepeats then fail .globalFlagOff 1
    else if on.any off.contains then fail .flagOnAndOff 1
    else return some (off.foldl Flags.turnOff (on.foldl Flags.turnOn scope))

/-- A count of a repetition. -/
def repeatCount? (ds : List Char) : Reader (Option Nat) :=
  if ds.isEmpty then return none
  else if Decimal.digitLimit < ds.length then throw (.longCount ds.length)
  else
    let n := valueIn 10 ds
    if countLimit ≤ n then throw .count else return some n

/-- The bounds of a repetition behind its first character, or nothing if it is no repetition. -/
def bounds? (mark : Char) : Reader (Option (Nat × Option Nat)) := do
  match mark with
  | '?' => return some (0, some 1)
  | '*' => return some (0, none)
  | '+' => return some (1, none)
  | _ =>
    if (← peek) = some (.plain '\x7d') then return none
    else
      let here ← position
      let fuel ← lexemesLeft
      let low ← takeWhile Char.isDigit fuel
      let high ← if ← accept ',' then takeWhile Char.isDigit fuel else pure low
      if ← accept '\x7d' then
        let least ← repeatCount? low
        let most ← repeatCount? high
        match most with
        | some n =>
          if n < least.getD 0 then fail .leastAboveMost ((← position) - here)
          else return some (least.getD 0, most)
        | none => return some (least.getD 0, none)
      else
        seek here
        return none

def greed : Reader Greed := do
  if ← accept '?' then return .lazy
  else if ← accept '+' then return .possessive
  else return .greedy

/-- Repeats the last item; `back` leads to the mark of the repetition. -/
def repeatLast (scope : Flags) (here : Nat) (least : Nat) (most : Option Nat) :
    List Node → Reader (List Node)
  | [] => do fail .nothingToRepeat ((← position) - here + 1)
  | .anchor _ :: _ => do fail .nothingToRepeat ((← position) - here + 1)
  | .loop .. :: _ | .refused .. :: _ => do fail .multipleRepeat ((← position) - here + 1)
  | last :: rest => do
    let kind ← greed
    let item := Node.loop kind least most last
    return (if scope.noRepeats then .refused kind item else item) :: rest

/-- Items, last first, as one tree. -/
def joined : List Node → Node
  | [] => .empty
  | last :: rest => rest.foldl (fun tail item => .seq item tail) last

/-- Skips a comment in verbose mode, to the end of its line. -/
def skipLine : Nat → Reader Unit
  | 0 => return
  | fuel + 1 => do
    match ← take with
    | none => return
    | some lexeme => if lexeme = .plain '\n' then return else skipLine fuel

/-- Skips a comment group; `start` is the place of its parenthesis. -/
def skipComment (start : Nat) : Nat → Reader Unit
  | 0 => return
  | fuel + 1 => do
    if (← peek).isNone then fail .unterminatedComment ((← position) - start)
    else if (← take) = some (.plain ')') then return
    else skipComment start fuel

def checkGroupName (called : String) : Reader Unit :=
  if Text.isIdentifier called.toList then return
  else fail (.badGroupName called) (called.length + 1)

/-- Opens a group and gives its number. -/
def openGroup (called : Option String) : Reader Nat := do
  let s ← get
  let index := s.widths.size
  set { s with widths := s.widths.push none }
  match called with
  | none => return index
  | some called =>
    match s.names.lookup called with
    | some earlier => fail (.repeatedName called index earlier) (called.length + 1)
    | none =>
      modify fun s => { s with names := (called, index) :: s.names }
      return index

def closeGroup (index : Nat) (body : Node) : Reader Unit :=
  modify fun s => { s with widths := s.widths.setIfInBounds index (some body.width) }

/-- The greatest number that a group may be asked for by. -/
def groupLimit : Nat := 1073741823

/-- The group that a conditional asks for. -/
def conditionGroup : Reader Nat := do
  let called ← name ')' "group name"
  let back := called.length + 1
  if Text.isIdentifier called.toList then
    match (← get).names.lookup called with
    | some index => return index
    | none => fail (.unknownGroup called) back
  else
    match Decimal.integer 10 called with
    | .error _ => fail (.badGroupName called) back
    | .ok n =>
      if n < 0 then fail (.badGroupName called) back
      else
        let index := n.toNat
        if index = 0 then fail .badGroupNumber back
        else if groupLimit ≤ index then fail (.groupReference index) back
        else
          let place := (← position) - back
          modify fun s =>
            if s.asked.any (·.1 == index) then s else { s with asked := s.asked ++ [(index, place)] }
          return index

/-- What a parenthesis opens. -/
inductive Opening where
  | nothing
  | item (node : Node)
  | look (behind negated : Bool)
  | condition (index : Nat)
  | body (called : Option String) (capture atomic : Bool) (scope : Flags)

/-- Reads what stands behind an opening parenthesis at `start`, up to the body of the group. -/
def opening (scope : Flags) (atStart : Bool) (start : Nat) : Reader Opening := do
  if !(← accept '?') then return .body none true false scope
  else
    match ← take with
    | none => fail .unexpectedEnd 0
    | some (.plain 'P') =>
      if ← accept '<' then
        let called ← name '>' "group name"
        checkGroupName called
        return .body (some called) true false scope
      else if ← accept '=' then
        let called ← name ')' "group name"
        checkGroupName called
        match (← get).names.lookup called with
        | none => fail (.unknownGroup called) (called.length + 1)
        | some index =>
          if ← groupClosed index then return .item (← backreference scope index)
          else fail .openGroup (called.length + 1)
      else
        match ← take with
        | none => fail .unexpectedEnd 0
        | some lexeme => fail (.unknownExtension ("P" ++ lexeme.text)) (lexeme.length + 2)
    | some (.plain ':') => return .body none false false scope
    | some (.plain '#') =>
      skipComment start (← lexemesLeft)
      return .nothing
    | some (.plain '=') => return .look false false
    | some (.plain '!') => return .look false true
    | some (.plain '<') =>
      match ← take with
      | none => fail .unexpectedEnd 0
      | some (.plain '=') => return .look true false
      | some (.plain '!') => return .look true true
      | some lexeme => fail (.unknownExtension ("<" ++ lexeme.text)) (lexeme.length + 2)
    | some (.plain '(') =>
      let index ← conditionGroup
      checkLookBehind index
      return .condition index
    | some (.plain '>') => return .body none false true scope
    | some lexeme =>
      if (FlagName.ofLexeme? lexeme).isSome || lexeme = .plain '-' then
        match ← inlineFlags scope lexeme with
        | some inner => return .body none false false inner
        | none =>
          if atStart then return .nothing
          else fail .lateFlags ((← position) - start)
      else fail (.unknownExtension lexeme.text) (lexeme.length + 1)

/-- Requires the closing parenthesis of the group that started at `start`. -/
def close (start : Nat) : Reader Unit := do
  if ← accept ')' then return
  else fail .unterminatedGroup ((← position) - start)

mutual

/-- Alternatives; those of the whole pattern take up the flags set at its start. -/
def alternatives (fuel : Nat) (scope : Flags) (top : Bool) : Reader Node :=
  match fuel with
  | 0 => fail .unexpectedEnd 0
  | fuel + 1 => do
    let first ← sequence fuel scope top top []
    otherAlternatives fuel scope top first

/-- The alternatives behind the first. -/
def otherAlternatives (fuel : Nat) (scope : Flags) (top : Bool) (first : Node) : Reader Node :=
  match fuel with
  | 0 => fail .unexpectedEnd 0
  | fuel + 1 => do
    if ← accept '|' then
      let flags := (← get).flags
      let scope := if top then flags else scope
      let second ← sequence fuel scope top false []
      return .alt first (← otherAlternatives fuel scope top second)
    else return first

/-- A sequence of items, the items read so far last first. -/
def sequence (fuel : Nat) (scope : Flags) (top first : Bool) (done : List Node) : Reader Node :=
  match fuel with
  | 0 => fail .unexpectedEnd 0
  | fuel + 1 => do
    match ← peek with
    | none | some (.plain '|') | some (.plain ')') => return joined done
    | some this =>
      advance
      match this with
      | .escaped c =>
        let item ← itemEscape scope c
        sequence fuel scope top first (item :: done)
      | .plain c =>
        if scope.verbose && (c == ' ' || (9 ≤ c.toNat && c.toNat ≤ 13)) then
          sequence fuel scope top first done
        else if scope.verbose && c == '#' then
          skipLine (← lexemesLeft)
          sequence fuel scope top first done
        else if c == '[' then
          let item ← set' scope
          sequence fuel scope top first (item :: done)
        else if c == '.' then
          sequence fuel scope top first (.one (.any scope.dotAll) :: done)
        else if c == '^' then
          let place := if scope.multiline then .lineStart else .start
          sequence fuel scope top first (.anchor place :: done)
        else if c == '$' then
          let place := if scope.multiline then .lineEnd else .finish
          sequence fuel scope top first (.anchor place :: done)
        else if c == '*' || c == '+' || c == '?' || c == '\x7b' then
          let here ← position
          match ← bounds? c with
          | none => sequence fuel scope top first (literal scope c.toNat :: done)
          | some (least, most) =>
            let done ← repeatLast scope here least most done
            sequence fuel scope top first done
        else if c == '(' then
          let start := (← position) - 1
          match ← opening scope (first && done.isEmpty) start with
          | .nothing =>
            let flags := (← get).flags
            let scope := if top then flags else scope
            sequence fuel scope top first done
          | .item item => sequence fuel scope top first (item :: done)
          | .look behind negated =>
            let outer := (← get).lookBehind
            if behind && outer.isNone then
              modify fun s => { s with lookBehind := some s.widths.size }
            let body ← alternatives fuel scope false
            if behind && outer.isNone then
              modify fun s => { s with lookBehind := none }
            close start
            sequence fuel scope top first (.look behind negated body :: done)
          | .condition index =>
            let yes ← sequence fuel scope false false []
            let no ← if ← accept '|' then do
                let no ← sequence fuel scope false false []
                if (← peek) = some (.plain '|') then fail .manyBranches 0
                else pure no
              else pure .empty
            close start
            sequence fuel scope top first (.conditional index yes no :: done)
          | .body called capture atomic inner =>
            let index ← if capture then some <$> openGroup called else pure none
            let body ← alternatives fuel inner false
            close start
            match index with
            | some index => closeGroup index body
            | none => pure ()
            let item := if atomic then .atomic body else .group index body
            sequence fuel scope top first (item :: done)
        else sequence fuel scope top first (literal scope c.toNat :: done)

end

/-- A whole pattern, checked for what only the complete tree shows. -/
def whole : Reader Node := do
  let fuel ← lexemesLeft
  let node ← alternatives (4 * fuel + 4) (← get).flags true
  let s ← get
  if s.given.contains .ascii && s.given.contains .unicode then throw .kinds
  else if s.source.next.isSome then fail .unbalanced 0
  else
    match s.asked.find? fun (index, _) => s.widths.size ≤ index with
    | some (index, place) => throw (s.source.fault (.groupReference index) place)
    | none =>
      match node.fault? with
      | some fault => throw fault
      | none => return node

/-- Reads a pattern with the given flags. -/
def read (flags : Flags) (pattern : String) : Except Fault Node := do
  let source ← Source.ofString pattern
  let (node, _) ← whole.run ⟨source, flags, [], #[none], [], none, []⟩
  return node

end Triage.Pattern
