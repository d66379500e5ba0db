import Triage.Text.Folding
import Triage.Text.Word
import Triage.Text.Blank

/-!
# Patterns

The tree of a pattern after all its flags have been resolved: tests on one character, sequences and
alternatives, groups, repetitions, looks to either side, references back to a group, and anchors.
Every tree has a width: the least and the greatest number of characters it can take.
-/

namespace Triage.Pattern

/-- Classes of characters that have a letter of their own. -/
inductive CharClass where
  | digit
  | space
  | word
deriving Repr, DecidableEq

namespace CharClass

/-- Membership, over all scripts or in ASCII alone. -/
def contains (cls : CharClass) (ascii : Bool) (c : Char) : Bool :=
  match cls, ascii with
  | .digit, true => c.isDigit
  | .digit, false => Text.isDigit c
  | .space, true => c == ' ' || (9 ≤ c.toNat && c.toNat ≤ 13)
  | .space, false => Text.isBlank c
  | .word, true => Text.isAsciiWord c
  | .word, false => Text.isWord c

end CharClass

/-- A member of a character set. -/
inductive SetItem where
  | char (code : Nat)
  | range (low high : Nat)
  | cls (cls : CharClass) (negated : Bool)
deriving Repr, DecidableEq

/-- A test on one character. -/
inductive CharTest where
  /-- Any character, the line feed only if `newline` says so. -/
  | any (newline : Bool)
  | set (negated : Bool) (folding : Text.Folding) (ascii : Bool) (items : List SetItem)
deriving Repr, DecidableEq

/-- Places between characters. -/
inductive Anchor where
  | start
  | lineStart
  /-- The end, or before a final line feed. -/
  | finish
  | lineEnd
  | textStart
  | textEnd
  | boundary (ascii : Bool)
  | inside (ascii : Bool)
deriving Repr, DecidableEq

inductive Greed where
  | greedy
  | lazy
  | possessive
deriving Repr, DecidableEq

inductive Node where
  | empty
  | one (test : CharTest)
  | seq (first second : Node)
  | alt (first second : Node)
  | group (index : Option Nat) (body : Node)
  | atomic (body : Node)
  | loop (greed : Greed) (least : Nat) (most : Option Nat) (body : Node)
  | look (behind negated : Bool) (body : Node)
  | backref (index least most : Nat) (folding : Text.Folding)
  | conditional (index : Nat) (yes no : Node)
  | anchor (place : Anchor)
  /-- A repetition where none is allowed. -/
  | refused (greed : Greed) (item : Node)
deriving Repr, Inhabited

/-- The greatest width that is told apart. -/
def widthLimit : Nat := 0x10000000000000000

/-- The greatest count of a bounded repetition, and the greatest width of a look behind. -/
def countLimit : Nat := 0xFFFFFFFF

namespace Node

/-- The least and the greatest width. -/
def width : Node → Nat × Nat
  | .empty | .look .. | .anchor _ => (0, 0)
  | .one _ => (1, 1)
  | .seq first second =>
    let (a, b) := first.width
    let (c, d) := second.width
    (min (a + c) widthLimit, min (b + d) widthLimit)
  | .alt first second =>
    let (a, b) := first.width
    let (c, d) := second.width
    (min a c, max b d)
  | .group _ body | .atomic body => body.width
  | .loop _ least most body =>
    let (a, b) := body.width
    (min (a * least) widthLimit,
      match most with
      | none => if b = 0 then 0 else widthLimit
      | some n => min (b * n) widthLimit)
  | .backref _ least most _ => (least, most)
  | .conditional _ yes no =>
    let (a, b) := yes.width
    let (c, d) := no.width
    (min a c, max b d)
  | .refused _ item => item.width

end Node

end Triage.Pattern
