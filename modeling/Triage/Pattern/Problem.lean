import Triage.Decimal.Reading
import Triage.Pattern.Syntax

/-!
# What is wrong with a pattern

Each cause has its wording. A problem at a place names the position, and in a pattern of several lines
also line and column.
-/

namespace Triage.Pattern

inductive Problem where
  | escapeAtEnd
  | incompleteEscape (escape : String)
  | badEscape (escape : String)
  | octalRange (escape : String)
  | missingBrace
  | missingName (what : String)
  | unterminatedName (terminator : String)
  | unknownCharacter (name : String)
  | openGroup
  | sameLookBehind
  | groupReference (index : Nat)
  | unterminatedSet
  | badRange (low high : String)
  | leastAboveMost
  | nothingToRepeat
  | multipleRepeat
  | unexpectedEnd
  | badGroupName (name : String)
  | unknownGroup (name : String)
  | unknownExtension (text : String)
  | unterminatedComment
  | unterminatedGroup
  | badGroupNumber
  | manyBranches
  | lateFlags
  | repeatedName (name : String) (index earlier : Nat)
  | localeFlag
  | flagConflict
  | flagsEnd
  | unknownFlag
  | globalFlagOn
  | missingFlag
  | fixedFlagOff
  | missingColon
  | globalFlagOff
  | flagOnAndOff
  | unbalanced
deriving Repr, DecidableEq

namespace Problem

def message : Problem → String
  | .escapeAtEnd => "bad escape (end of pattern)"
  | .incompleteEscape escape => "incomplete escape " ++ escape
  | .badEscape escape => "bad escape " ++ escape
  | .octalRange escape => "octal escape value " ++ escape ++ " outside of range 0-0o377"
  | .missingBrace => "missing \x7b"
  | .missingName what => "missing " ++ what
  | .unterminatedName terminator => "missing " ++ terminator ++ ", unterminated name"
  | .unknownCharacter name => "undefined character name " ++ Text.quoted name
  | .openGroup => "cannot refer to an open group"
  | .sameLookBehind => "cannot refer to group defined in the same lookbehind subpattern"
  | .groupReference index => s!"invalid group reference {index}"
  | .unterminatedSet => "unterminated character set"
  | .badRange low high => "bad character range " ++ low ++ "-" ++ high
  | .leastAboveMost => "min repeat greater than max repeat"
  | .nothingToRepeat => "nothing to repeat"
  | .multipleRepeat => "multiple repeat"
  | .unexpectedEnd => "unexpected end of pattern"
  | .badGroupName name => "bad character in group name " ++ Text.quoted name
  | .unknownGroup name => "unknown group name " ++ Text.quoted name
  | .unknownExtension text => "unknown extension ?" ++ text
  | .unterminatedComment => "missing ), unterminated comment"
  | .unterminatedGroup => "missing ), unterminated subpattern"
  | .badGroupNumber => "bad group number"
  | .manyBranches => "conditional backref with more than two branches"
  | .lateFlags => "global flags not at the start of the expression"
  | .repeatedName name index earlier =>
    s!"redefinition of group name {Text.quoted name} as group {index}; was group {earlier}"
  | .localeFlag => "bad inline flags: cannot use 'L' flag with a str pattern"
  | .flagConflict => "bad inline flags: flags 'a', 'u' and 'L' are incompatible"
  | .flagsEnd => "missing -, : or )"
  | .unknownFlag => "unknown flag"
  | .globalFlagOn => "bad inline flags: cannot turn on global flag"
  | .missingFlag => "missing flag"
  | .fixedFlagOff => "bad inline flags: cannot turn off flags 'a', 'u' and 'L'"
  | .missingColon => "missing :"
  | .globalFlagOff => "bad inline flags: cannot turn off global flag"
  | .flagOnAndOff => "bad inline flags: flag turned on and off"
  | .unbalanced => "unbalanced parenthesis"

end Problem

/-- Why a pattern is refused. -/
inductive Fault where
  | malformed (problem : Problem) (position : Nat) (pattern : String)
  | wideLookBehind
  | unevenLookBehind
  | noRepeats (greed : Greed)
  /-- A count of a repetition is too large. -/
  | count
  /-- A count of a repetition has too many digits. -/
  | longCount (digits : Nat)
  /-- The whole pattern is to be read as ASCII and as Unicode. -/
  | kinds
deriving Repr, DecidableEq

namespace Fault

/-- The name of a kind of repetition. -/
def repeatName : Greed → String
  | .greedy => "MAX_REPEAT"
  | .lazy => "MIN_REPEAT"
  | .possessive => "POSSESSIVE_REPEAT"

def message : Fault → String
  | .malformed problem position pattern =>
    let cs := pattern.toList
    let before := cs.take position
    let line := before.count '\n' + 1
    let column := (before.reverse.takeWhile (· != '\n')).length + 1
    s!"{problem.message} at position {position}"
      ++ (if cs.contains '\n' then s!" (line {line}, column {column})" else "")
  | .wideLookBehind => "looks too much behind"
  | .unevenLookBehind => "look-behind requires fixed-width pattern"
  | .noRepeats greed => "internal: unsupported template operator " ++ repeatName greed
  | .count => "the repetition number is too large"
  | .longCount digits => (Decimal.IntegerFault.tooLong digits).message
  | .kinds => "ASCII and UNICODE flags are incompatible"

end Fault

namespace Node

/-- The first fault of a complete tree, outer nodes before inner ones. -/
def fault? : Node → Option Fault
  | .empty | .one _ | .backref .. | .anchor _ => none
  | .seq first second | .alt first second | .conditional _ first second =>
    first.fault?.or second.fault?
  | .group _ body | .atomic body | .loop _ _ _ body => body.fault?
  | .look behind _ body =>
    let (least, most) := body.width
    if behind && countLimit < least then some .wideLookBehind
    else if behind && least != most then some .unevenLookBehind
    else body.fault?
  | .refused greed _ => some (.noRepeats greed)

end Node

end Triage.Pattern
