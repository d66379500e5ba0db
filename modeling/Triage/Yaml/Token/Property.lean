import Triage.Yaml.Token

/-!
# Directives, anchors and tags

A directive gives the version or the meaning of a tag handle; any other is passed over. A tag is
written in angle brackets, or as a handle with a tail; octets that a tail escapes are read as text.
-/

namespace Triage.Yaml.Scan

def digitsValue (ds : List Char) : Nat := Decimal.naturalOf ds

def isHex (c : Char) : Bool := (Decimal.digitOf? 16 c).isSome

def hexValue (ds : List Char) : Nat :=
  ds.foldl (fun n c => n * 16 + (Decimal.digitOf? 16 c).getD 0) 0

/-! ## Names -/

/-- The name of an anchor or alias. -/
def anchorName : Scan String := do
  forward
  let name ← takeWhile isNameChar
  if name.isEmpty then failWanting "alphabetic or numeric character"
  else
    let c ← peek
    if isSpaceOrEnd c || "?:,]\x7d%@\x60".toList.contains c then return String.ofList name
    else failWanting "alphabetic or numeric character"

/-! ## Tags -/

/-- Octets escaped one after the other, read as text. -/
def escapedOctets (start : Mark) : Nat → List UInt8 → Scan (List Char)
  | 0, _ => return []
  | fuel + 1, done => do
    if (← peek) == '%' then
      forward
      let a ← peek
      if !isHex a then failWanting "URI escape sequence of 2 hexadecimal numbers"
      else
        let b ← peekAt 1
        if !isHex b then fail (.unexpected "URI escape sequence of 2 hexadecimal numbers" b)
        else
          skip 2
          escapedOctets start fuel (done ++ [(hexValue [a, b]).toUInt8])
    else
      match Text.Utf8.decode done with
      | .ok s => return s.toList
      | .error fault => throw (.malformed (.encoding fault) start)

def isTailChar (c : Char) : Bool :=
  c.isAlphanum || "-;/?:@&=+$,_.!~*'()[]".toList.contains c

/-- The characters of a tail, escapes read. -/
def tailChars : Nat → Scan (List Char)
  | 0 => return []
  | fuel + 1 => do
    let plain ← takeWhile isTailChar
    if (← peek) == '%' then
      let octets ← escapedOctets (← mark) (← left) []
      return plain ++ octets ++ (← tailChars fuel)
    else return plain

def tagTail : Scan String := do
  let first ← peek
  let tail ← tailChars (← left)
  if tail.isEmpty && first != '%' then failWanting "URI"
  else return String.ofList tail

/-- A handle: one exclamation mark, or a name between two. -/
def tagHandle : Scan String := do
  if (← peek) != '!' then failWanting "'!'"
  else
    forward
    if (← peek) == ' ' then return "!"
    else
      let name ← takeWhile isNameChar
      if (← peek) != '!' then failWanting "'!'"
      else
        forward
        return String.ofList ('!' :: name ++ ['!'])

/-- Whether a second exclamation mark follows before the next gap. -/
def hasHandle (c : Cursor) : Bool :=
  ((c.rest.drop 1).takeWhile (!isGapOrEnd ·)).contains '!'

def tag : Scan Content := do
  let c ← peekAt 1
  let content ←
    if c == '<' then do
      skip 2
      let tail ← tagTail
      if (← peek) != '>' then failWanting "'>'"
      else
        forward
        pure (Content.tag none tail)
    else if isSpaceOrEnd c then do
      forward
      pure (Content.tag none "!")
    else do
      let handle ← if hasHandle (← get) then tagHandle else do
        forward
        pure "!"
      pure (Content.tag (some handle) (← tagTail))
  if isGapOrEnd (← peek) then return content else failWanting "' '"

/-! ## Directives -/

def versionNumber : Scan Nat := do
  let ds ← takeWhile Char.isDigit
  if ds.isEmpty then failWanting "a digit"
  else if Decimal.digitLimit < ds.length then throw (.scalar (.integer (.tooLong ds.length)))
  else return digitsValue ds

def version : Scan Directive := do
  skipWhile (· == ' ')
  let major ← versionNumber
  if (← peek) != '.' then failWanting "a digit or '.'"
  else
    forward
    let minor ← versionNumber
    if isGapOrEnd (← peek) then return .version major minor else failWanting "a digit or ' '"

def tagMeaning : Scan Directive := do
  skipWhile (· == ' ')
  let handle ← tagHandle
  if (← peek) != ' ' then failWanting "' '"
  else
    skipWhile (· == ' ')
    let meaning ← tagTail
    if isGapOrEnd (← peek) then return .tag handle meaning else failWanting "' '"

def directive : Scan Directive := do
  forward
  let name ← takeWhile isNameChar
  if name.isEmpty || !isGapOrEnd (← peek) then failWanting "alphabetic or numeric character"
  else
    let d ←
      if name = "YAML".toList then version
      else if name = "TAG".toList then tagMeaning
      else do
        skipWhile (!isBreakOrEnd ·)
        pure .other
    ignoreLine
    return d

end Triage.Yaml.Scan
