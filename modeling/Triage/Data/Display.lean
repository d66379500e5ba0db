import Triage.Data
import Triage.Decimal.Reading

/-!
# Shown values

A value is shown inside a message in the notation of literals: text in quotes, lists in square
brackets, mappings in braces. On its own a text is shown as it is, and dates and moments in their
written form. A whole number of too many digits cannot be shown, and neither can what holds it.
-/

namespace Triage.Data

/-- Octets in quotes, those without an ASCII form by their code. -/
def showOctets (bytes : List UInt8) : String :=
  let cs := bytes.map fun b => Char.ofNat b.toNat
  let quote := Text.Quoted.mark cs
  let body := cs.flatMap fun c =>
    if 0x7F ≤ c.toNat then '\\' :: 'x' :: Text.Quoted.hex 2 c.toNat else Text.Quoted.escape quote c
  String.ofList ('b' :: quote :: body ++ [quote])

def showOffset (offset : Int) : String :=
  if offset = 0 then "datetime.timezone.utc"
  else "datetime.timezone(" ++ Time.showSpan offset ++ ")"

/-- The parts of a moment, seconds and microseconds unless they are zero. -/
def showMoment (t : Time.Moment) : String :=
  let clock := [t.date.year, t.date.month, t.date.day, t.hour, t.minute]
    ++ (if t.second = 0 && t.microsecond = 0 then [] else [t.second])
    ++ (if t.microsecond = 0 then [] else [t.microsecond])
  let zone := match t.offset with
    | none => []
    | some offset => ["tzinfo=" ++ showOffset offset]
  "datetime.datetime(" ++ ", ".intercalate (clock.map toString ++ zone) ++ ")"

mutual

/-- A value in the notation of literals. -/
def literal : Data → String
  | .null => "None"
  | .bool b => if b then "True" else "False"
  | .int n => toString n
  | .float x => Decimal.shortest x
  | .text s => Text.quoted s
  | .octets bytes => showOctets bytes
  | .date d => s!"datetime.date({d.year}, {d.month}, {d.day})"
  | .moment t => showMoment t
  | .list items => "[" ++ ", ".intercalate (literals items) ++ "]"
  | .tuple items =>
    let inner := literals items
    if inner.length = 1 then "(" ++ ", ".intercalate inner ++ ",)"
    else "(" ++ ", ".intercalate inner ++ ")"
  | .set items => if items.isEmpty then "set()" else "\x7b" ++ ", ".intercalate (literals items) ++ "\x7d"
  | .map entries => "\x7b" ++ ", ".intercalate (literalEntries entries) ++ "\x7d"

def literals : List Data → List String
  | [] => []
  | item :: rest => literal item :: literals rest

def literalEntries : List (Data × Data) → List String
  | [] => []
  | (key, value) :: rest => (literal key ++ ": " ++ literal value) :: literalEntries rest

end

/-- A value on its own. -/
def display : Data → String
  | .text s => s
  | .date d => String.ofList d.iso
  | .moment t => t.isoWith ' '
  | value => literal value

mutual

/-- Whether all whole numbers in a value may be written. -/
def isWritable : Data → Bool
  | .int n => !Decimal.isTooLong n
  | .list items | .tuple items | .set items => allWritable items
  | .map entries => entriesWritable entries
  | _ => true

def allWritable : List Data → Bool
  | [] => true
  | item :: rest => isWritable item && allWritable rest

def entriesWritable : List (Data × Data) → Bool
  | [] => true
  | (key, value) :: rest => isWritable key && isWritable value && entriesWritable rest

end

/-- A value in one of the two notations, if its whole numbers may be written. -/
def shown (form : Data → String) (value : Data) : Except Decimal.IntegerFault String :=
  if value.isWritable then .ok (form value) else .error .tooLongToWrite

end Triage.Data
