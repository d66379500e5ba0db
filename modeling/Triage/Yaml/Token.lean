import Triage.Yaml.Cursor

/-!
# Tokens

The structure of a document as a flat sequence: starts and ends of collections, marks of keys, values
and entries, properties of nodes, and scalars. Block collections have starts and ends of their own
where the indentation changes.
-/

namespace Triage.Yaml

inductive Directive where
  | version (major minor : Nat)
  | tag (handle : String) (meaning : String)
  | other
deriving Repr, DecidableEq

inductive Content where
  | streamStart
  | streamEnd
  | directive (d : Directive)
  | documentStart
  | documentEnd
  | blockSequenceStart
  | blockMappingStart
  | blockEnd
  | flowSequenceStart
  | flowMappingStart
  | flowSequenceEnd
  | flowMappingEnd
  | blockEntry
  | flowEntry
  | key
  | value
  | reference (name : String)
  | anchor (name : String)
  | tag (handle : Option String) (tail : String)
  | scalar (value : String) (plain : Bool)
deriving Repr, DecidableEq

namespace Content

/-- What a token is called in messages. -/
def name : Content → String
  | .streamStart => "<stream start>"
  | .streamEnd => "<stream end>"
  | .directive _ => "<directive>"
  | .documentStart => "<document start>"
  | .documentEnd => "<document end>"
  | .blockSequenceStart => "<block sequence start>"
  | .blockMappingStart => "<block mapping start>"
  | .blockEnd => "<block end>"
  | .flowSequenceStart => "["
  | .flowMappingStart => "\x7b"
  | .flowSequenceEnd => "]"
  | .flowMappingEnd => "\x7d"
  | .blockEntry => "-"
  | .flowEntry => ","
  | .key => "?"
  | .value => ":"
  | .reference _ => "<alias>"
  | .anchor _ => "<anchor>"
  | .tag .. => "<tag>"
  | .scalar .. => "<scalar>"

end Content

structure Token where
  content : Content
  start : Mark
  stop : Mark
deriving Repr, DecidableEq

end Triage.Yaml
