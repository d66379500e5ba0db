import Triage.Data.Display
import Triage.Yaml.Style

/-!
# Writing a document

Collections are written in block form, one entry a line, indented by two; empty ones as a pair of
brackets. Long scalars are folded at a space once a line has passed its width. A key of up to 122
characters on one line stands in front of its colon; any other key has a mark of its own.
-/

namespace Triage.Yaml

/-- The width after which lines are folded. -/
def lineWidth : Nat := 120

/-- A text being written. -/
structure Pen where
  /-- What is written, the last character first. -/
  written : List Char
  column : Nat
  /-- The last character is a gap, so no space is needed. -/
  open_ : Bool
  /-- Nothing but indicators stands on the line. -/
  fresh : Bool

namespace Pen

def start : Pen := ⟨[], 0, true, true⟩

def text (p : Pen) : String := String.ofList p.written.reverse

def put (p : Pen) (cs : List Char) : Pen :=
  { p with written := cs.reverse ++ p.written, column := p.column + cs.length }

/-- Writes an indicator, with a space before it where one is needed. -/
def indicator (p : Pen) (cs : List Char) (apart opens indents : Bool) : Pen :=
  let p := p.put (if p.open_ || !apart then cs else ' ' :: cs)
  { p with open_ := opens, fresh := p.fresh && indents }

def lineBreak (p : Pen) (c : Char) : Pen :=
  { written := c :: p.written, column := 0, open_ := true, fresh := true }

/-- Goes to a column of a line that holds nothing yet but indicators. -/
def indent (p : Pen) (column : Nat) : Pen :=
  let p := if !p.fresh || column < p.column || (p.column == column && !p.open_) then p.lineBreak '\n' else p
  if p.column < column then { p.put (List.replicate (column - p.column) ' ') with open_ := true } else p

/-- Notes that something other than an indicator has been written. -/
def solid (p : Pen) : Pen := { p with open_ := false, fresh := false }

/-! ## Scalars -/

/-- The classes of characters between which a scalar can be folded. -/
inductive Run where
  | space
  | breaks
  | other
deriving DecidableEq

def Run.of (c : Char) : Run :=
  if c == ' ' then .space else if Style.isLineBreak c then .breaks else .other

/-- Splits a text into its runs. -/
def runs (cs : List Char) : List (List Char) := cs.splitBy fun a b => decide (Run.of a = Run.of b)

/-- A single space may be replaced by a line break where the line is full. -/
def folds (p : Pen) (split : Bool) (run : List Char) : Bool :=
  split && run == [' '] && lineWidth < p.column

def plain (p : Pen) (column : Nat) (split : Bool) (cs : List Char) : Pen :=
  if cs.isEmpty then p
  else
    let p := (if p.open_ then p else p.put [' ']).solid
    (runs cs).foldl (fun p run => if p.folds split run then (p.indent column).solid else p.put run) p

/-- Line breaks inside quotes; a first line feed is doubled, since a single one would fold. -/
def quotedBreaks (p : Pen) (column : Nat) (run : List Char) : Pen :=
  let p := if run.head? = some '\n' then p.lineBreak '\n' else p
  (run.foldl lineBreak p).indent column

def singleRuns (column : Nat) (split first : Bool) : List (List Char) → Pen → Pen
  | [], p => p
  | run :: rest, p =>
    let p :=
      match Run.of (run.headD ' ') with
      | .space => if !first && !rest.isEmpty && p.folds split run then p.indent column else p.put run
      | .breaks => p.quotedBreaks column run
      | .other => p.put (run.flatMap fun c => if c == '\'' then ['\'', '\''] else [c])
    singleRuns column split false rest p

def single (p : Pen) (column : Nat) (split : Bool) (cs : List Char) : Pen :=
  let p := p.indicator ['\''] true false false
  (singleRuns column split true (runs cs) p).indicator ['\''] false false false

/-- The letters of escapes. -/
def escapeLetters : List (Char × Char) :=
  [('\x00', '0'), ('\x07', 'a'), ('\x08', 'b'), ('\t', 't'), ('\n', 'n'), ('\x0b', 'v'), ('\x0c', 'f'),
   ('\r', 'r'), ('\x1b', 'e'), ('"', '"'), ('\\', '\\'), ('\x85', 'N'), ('\xa0', '_'),
   ('\u2028', 'L'), ('\u2029', 'P')]

def hexadecimal (width n : Nat) : List Char := (Text.Quoted.hex width n).map Char.toUpper

/-- The escape of a character that has to be escaped. -/
def escape? (c : Char) : Option (List Char) :=
  let code := c.toNat
  if (0x20 ≤ code && code ≤ 0x7E && c != '"' && c != '\\')
      || (0xA0 ≤ code && code ≤ 0xFFFD && c != '\u2028' && c != '\u2029' && c != '\uFEFF') then none
  else match escapeLetters.lookup c with
    | some letter => some ['\\', letter]
    | none =>
      if code ≤ 0xFF then some ('\\' :: 'x' :: hexadecimal 2 code)
      else if code ≤ 0xFFFF then some ('\\' :: 'u' :: hexadecimal 4 code)
      else some ('\\' :: 'U' :: hexadecimal 8 code)

/-- Breaks a line inside double quotes; a backslash keeps a space that starts the next line. -/
def continueLine (p : Pen) (column : Nat) (next : Char) : Pen :=
  let p := ((p.put ['\\']).indent column).solid
  if next == ' ' then p.put ['\\'] else p

/-- Writes characters inside double quotes; `held` are those that are not written yet, the last one
first. -/
def doubleChars (column : Nat) (split : Bool) : (first : Bool) → (held : List Char) → List Char → Pen → Pen
  | _, held, [], p => p.put held.reverse
  | first, held, c :: rest, p =>
    let inner := split && !first && !rest.isEmpty
    match escape? c with
    | some escape =>
      let p := (p.put held.reverse).put escape
      if inner && lineWidth + 1 < p.column then
        doubleChars column split false [] rest (p.continueLine column (rest.headD 'x'))
      else doubleChars column split false [] rest p
    | none =>
      if inner && (c == ' ' || held.isEmpty) && lineWidth < p.column + held.length then
        doubleChars column split false [c] rest ((p.put held.reverse).continueLine column c)
      else doubleChars column split false (c :: held) rest p

def double (p : Pen) (column : Nat) (split : Bool) (cs : List Char) : Pen :=
  let p := p.indicator ['"'] true false false
  (doubleChars column split true [] cs p).indicator ['"'] false false false

end Pen

/-! ## Values -/

/-- The written form of a binary64 number: with an exponent there is always a point. -/
def floatText (x : Float) : String :=
  if x.isNaN then ".nan"
  else if x.isInf then (if x < 0 then "-.inf" else ".inf")
  else
    let cs := (Decimal.shortest x).toList
    if cs.contains 'e' && !cs.contains '.' then
      String.ofList (cs.takeWhile (· != 'e') ++ '.' :: '0' :: cs.dropWhile (· != 'e'))
    else String.ofList cs

/-- The tag and the text of a value that is no collection. -/
def scalarForm : Data → Tag × String
  | .null => (.null, "null")
  | .bool b => (.bool, if b then "true" else "false")
  | .int n => (.int, toString n)
  | .float x => (.float, floatText x)
  | value => (.str, value.display)

/-- The column at which the parts of a node are indented. -/
def inner : Option Nat → Nat
  | none => 0
  | some column => column + 2

def writeScalar (column : Option Nat) (key : Bool) (value : Data) (p : Pen) : Pen :=
  let (tag, text) := scalarForm value
  let cs := text.toList
  let column := column.elim 2 (· + 2)
  match Style.choose (Tag.ofForm text == tag) key cs with
  | .plain => p.plain column (!key) cs
  | .single => p.single column (!key) cs
  | .double => p.double column (!key) cs

/-- Whether a key can stand on one line in front of its colon. -/
def isSimpleKey (key : Data) : Bool :=
  let (tag, text) := scalarForm key
  let shortTag := tag.name.length - standardTags.length + 2
  shortTag + text.length < 128 && text != "" && !Style.isMultiline text.toList

mutual

/-- Writes a value; `column` is that of the collection it is in, `inMapping` tells that this is a
mapping. -/
def writeNode (column : Option Nat) (inMapping : Bool) : Data → Pen → Pen
  | .list [], p | .tuple [], p => (p.indicator ['['] true true false).indicator [']'] false false false
  | .map [], p => (p.indicator ['\x7b'] true true false).indicator ['\x7d'] false false false
  | .list (item :: rest), p =>
    let place := if inMapping && !p.fresh then column.getD 0 else inner column
    writeItems place (item :: rest) p
  | .tuple (item :: rest), p =>
    let place := if inMapping && !p.fresh then column.getD 0 else inner column
    writeItems place (item :: rest) p
  | .map (entry :: rest), p => writeEntries (inner column) (entry :: rest) p
  | value, p => writeScalar column false value p

def writeItems (column : Nat) : List Data → Pen → Pen
  | [], p => p
  | item :: rest, p =>
    let p := (p.indent column).indicator ['-'] true false true
    writeItems column rest (writeNode (some column) false item p)

def writeEntries (column : Nat) : List (Data × Data) → Pen → Pen
  | [], p => p
  | (key, value) :: rest, p =>
    let p := p.indent column
    let p :=
      if isSimpleKey key then
        (writeScalar (some column) true key p).indicator [':'] false false false
      else
        let p := writeScalar (some column) false key (p.indicator ['?'] true false true)
        (p.indent column).indicator [':'] true false true
    writeEntries column rest (writeNode (some column) true value p)

end

/-- The characters of a value. -/
def layout (value : Data) : String :=
  ((writeNode none false value .start).indent 0).text

/-- The document of a value. -/
def write (value : Data) : Except Decimal.IntegerFault String :=
  if value.isWritable then .ok (layout value) else .error .tooLongToWrite

end Triage.Yaml
