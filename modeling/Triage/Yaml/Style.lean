import Triage.Yaml.Tag

/-!
# Styles of scalars

A text may stand plain if nothing in it could be taken for structure and its form gives it the tag of
texts. Otherwise it stands in single quotes, which keep every character but fold line breaks, or in
double quotes, which can escape what has no safe form.
-/

namespace Triage.Yaml

inductive Style where
  | plain
  | single
  | double
deriving Repr, DecidableEq

namespace Style

/-- The line breaks that writing keeps apart from other characters. -/
def isLineBreak (c : Char) : Bool := c == '\n' || c == '\x85' || c == '\u2028' || c == '\u2029'

/-- Characters that may stand in front of or behind an indicator. -/
def isOpen (c : Char) : Bool :=
  c == '\x00' || c == ' ' || c == '\t' || c == '\r' || isLineBreak c

/-- Characters that can only be escaped. -/
def isSpecial (c : Char) : Bool :=
  let code := c.toNat
  !(c == '\n' || (0x20 ≤ code && code ≤ 0x7E) || code == 0x85
    || (0xA0 ≤ code && code ≤ 0xFFFD && c != '\uFEFF') || (0x10000 ≤ code && code < 0x10FFFF))

/-- Two neighbours with given properties. -/
def hasPair (p q : Char → Bool) (cs : List Char) : Bool :=
  (cs.zip cs.tail).any fun pair => p pair.1 && q pair.2

def isMultiline (cs : List Char) : Bool := cs.any isLineBreak

/-- Something in the text could be taken for structure. -/
def hasIndicator (cs : List Char) : Bool :=
  let first := cs.headD ' '
  let second := cs.tail.headD ' '
  "---".toList.isPrefixOf cs || "...".toList.isPrefixOf cs
    || "#,[]\x7b\x7d&*!|>'\"%@\x60".toList.contains first
    || ((first == '?' || first == '-') && isOpen second)
    || hasPair (· == ':') isOpen (cs ++ [' '])
    || hasPair isOpen (· == '#') cs

def isEdge (c : Char) : Bool := c == ' ' || isLineBreak c

/-- A text that may stand plain if its form allows. -/
def allowsPlain (cs : List Char) : Bool :=
  !(isEdge (cs.headD 'x') || isEdge (cs.getLastD 'x') || isMultiline cs || cs.any isSpecial
    || hasIndicator cs)

/-- A text that loses nothing in single quotes. -/
def allowsSingle (cs : List Char) : Bool :=
  !(hasPair isLineBreak (· == ' ') cs || hasPair (· == ' ') isLineBreak cs || cs.any isSpecial)

/-- The style of a value; `plainTag` says that its plain form has its tag, `key` that it is the key of a
mapping on one line. -/
def choose (plainTag key : Bool) (cs : List Char) : Style :=
  if plainTag && !(key && (cs.isEmpty || isMultiline cs)) && allowsPlain cs then .plain
  else if allowsSingle cs && !(key && isMultiline cs) then .single
  else .double

end Style

end Triage.Yaml
