import Triage.Decimal.Reading
import Triage.Text.Base64
import Triage.Text.Utf8
import Triage.Time.Moment

/-!
# What is wrong with a document

Each cause has its wording, and the place where it was found. Values that have the form of a number or
a date and are none fail apart from the structure of the document.
-/

namespace Triage.Yaml

/-- A place in a document, counted from zero. -/
structure Mark where
  index : Nat
  line : Nat
  column : Nat
deriving Repr, DecidableEq, Inhabited

/-- The kinds of nodes. -/
inductive Kind where
  | scalar
  | sequence
  | mapping
deriving Repr, DecidableEq

namespace Kind

def name : Kind → String
  | .scalar => "scalar"
  | .sequence => "sequence"
  | .mapping => "mapping"

end Kind

inductive Problem where
  /-- A character that is not the one wanted. -/
  | unexpected (wanted : String) (found : Char)
  | noToken (found : Char)
  | missingColon
  | entryNotAllowed
  | keyNotAllowed
  | valueNotAllowed
  | zeroIndentation
  | escapeDigits (count : Nat) (found : Char)
  | unknownEscape (found : Char)
  | endOfStream
  | documentSeparator
  | encoding (fault : Text.Utf8.Fault)
  /-- A token that is not the one wanted. -/
  | expectedToken (wanted found : String)
  | gotToken (wanted found : String)
  | repeatedVersion
  | version
  | repeatedHandle (handle : String)
  | unknownHandle (handle : String)
  | unknownAlias (name : String)
  | repeatedAnchor
  | secondDocument
  | unknownTag (tag : String)
  | unhashableKey
  | expectedNode (wanted : String) (found : Kind)
  | entryCount (count : Nat)
  /-- Characters outside ASCII, the first and the last of their run. -/
  | notAscii (text : String) (first last : Nat)
  | base64 (fault : Text.Base64.Fault)
deriving Repr, DecidableEq

namespace Problem

/-- The code of a character outside ASCII between quotes. -/
def escapedCode (c : Char) : String :=
  let body := if c.toNat < 0x100 then 'x' :: Text.Quoted.hex 2 c.toNat
    else if c.toNat < 0x10000 then 'u' :: Text.Quoted.hex 4 c.toNat
    else 'U' :: Text.Quoted.hex 8 c.toNat
  String.ofList ('\'' :: '\\' :: body ++ ['\''])

def message : Problem → String
  | .unexpected wanted found => s!"expected {wanted}, but found {Text.quoted found.toString}"
  | .noToken found => s!"found character {Text.quoted found.toString} that cannot start any token"
  | .missingColon => "could not find expected ':'"
  | .entryNotAllowed => "sequence entries are not allowed here"
  | .keyNotAllowed => "mapping keys are not allowed here"
  | .valueNotAllowed => "mapping values are not allowed here"
  | .zeroIndentation => "expected indentation indicator in the range 1-9, but found 0"
  | .escapeDigits count found =>
    s!"expected escape sequence of {count} hexadecimal numbers, but found {Text.quoted found.toString}"
  | .unknownEscape found => "found unknown escape character " ++ Text.quoted found.toString
  | .endOfStream => "found unexpected end of stream"
  | .documentSeparator => "found unexpected document separator"
  | .encoding fault => fault.message
  | .expectedToken wanted found => s!"expected {wanted}, but found {Text.quoted found}"
  | .gotToken wanted found => s!"expected {wanted}, but got {Text.quoted found}"
  | .repeatedVersion => "found duplicate YAML directive"
  | .version => "found incompatible YAML document (version 1.* is required)"
  | .repeatedHandle handle => "duplicate tag handle " ++ Text.quoted handle
  | .unknownHandle handle => "found undefined tag handle " ++ Text.quoted handle
  | .unknownAlias name => "found undefined alias " ++ Text.quoted name
  | .repeatedAnchor => "second occurrence"
  | .secondDocument => "but found another document"
  | .unknownTag tag => "could not determine a constructor for the tag " ++ Text.quoted tag
  | .unhashableKey => "found unhashable key"
  | .expectedNode wanted found => s!"expected {wanted}, but found {found.name}"
  | .entryCount count => s!"expected a single mapping item, but found {count} items"
  | .notAscii text first last =>
    let what := if first = last then
        "character " ++ escapedCode (text.toList.getD first ' ') ++ s!" in position {first}"
      else s!"characters in position {first}-{last}"
    "failed to convert base64 data into ascii: 'ascii' codec can't encode " ++ what
      ++ ": ordinal not in range(128)"
  | .base64 fault => "failed to decode base64 data: " ++ fault.message

end Problem

/-- Why the text of a scalar has no value of its kind. -/
inductive ScalarFault where
  | integer (fault : Decimal.IntegerFault)
  | float (text : String)
  /-- A number without any digit. -/
  | noDigits
  | range (fault : Time.RangeFault)
  /-- A text without the form of a date. -/
  | noDate
  | truth (text : String)
  /-- The code of a character beyond the last one. -/
  | character
  /-- The code of a character beyond any machine number. -/
  | overflow
deriving Repr, DecidableEq

inductive Fault where
  | unacceptable (code position : Nat)
  | malformed (problem : Problem) (mark : Mark)
  | scalar (fault : ScalarFault)
deriving Repr, DecidableEq

end Triage.Yaml
