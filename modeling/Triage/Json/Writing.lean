import Triage.Data.Display

/-!
# Writing JSON

Values are written over several lines, two blanks deeper for each level, and empty lists and mappings
as a pair of brackets. Strings keep every character but quotes, backslashes and controls. Binary64
numbers are written as their shortest decimal, the special ones by name.
-/

namespace Triage.Json

def escapeChar (c : Char) : List Char :=
  if c == '"' then ['\\', '"']
  else if c == '\\' then ['\\', '\\']
  else if c == '\n' then ['\\', 'n']
  else if c == '\r' then ['\\', 'r']
  else if c == '\t' then ['\\', 't']
  else if c == '\x08' then ['\\', 'b']
  else if c == '\x0c' then ['\\', 'f']
  else if c.toNat < 0x20 then '\\' :: 'u' :: Text.Quoted.hex 4 c.toNat
  else [c]

def writeString (s : String) : String :=
  String.ofList ('"' :: s.toList.flatMap escapeChar ++ ['"'])

def writeFloat (x : Float) : String :=
  if x.isNaN then "NaN"
  else if x.isFinite then Decimal.shortest x
  else if x < 0 then "-Infinity" else "Infinity"

/-- A line break with the blanks of a level. -/
def lineBreak (level : Nat) : String := "\n" ++ String.ofList (List.replicate (2 * level) ' ')

/-- The text of a key. -/
def keyText : Data → String
  | .text s => s
  | .bool b => if b then "true" else "false"
  | .null => "null"
  | key => key.display

mutual

/-- A value at a level of nesting. -/
def writeAt (level : Nat) : Data → String
  | .null => "null"
  | .bool b => if b then "true" else "false"
  | .int n => toString n
  | .float x => writeFloat x
  | .list items | .tuple items | .set items =>
    if items.isEmpty then "[]"
    else "[" ++ lineBreak (level + 1)
      ++ ("," ++ lineBreak (level + 1)).intercalate (writeItems (level + 1) items)
      ++ lineBreak level ++ "]"
  | .map entries =>
    if entries.isEmpty then "\x7b\x7d"
    else "\x7b" ++ lineBreak (level + 1)
      ++ ("," ++ lineBreak (level + 1)).intercalate (writeEntries (level + 1) entries)
      ++ lineBreak level ++ "\x7d"
  | other => writeString other.display

def writeItems (level : Nat) : List Data → List String
  | [] => []
  | item :: rest => writeAt level item :: writeItems level rest

def writeEntries (level : Nat) : List (Data × Data) → List String
  | [] => []
  | (key, item) :: rest =>
    (writeString (keyText key) ++ ": " ++ writeAt level item) :: writeEntries level rest

end

/-- A value as a document of its own. -/
def write (d : Data) : String := writeAt 0 d

end Triage.Json
