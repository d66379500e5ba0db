import Triage.Data
import Triage.Decimal.Reading

/-!
# Reading JSON

A snapshot is one JSON value. Numbers without point and exponent are whole numbers; `NaN` and the two
infinities are accepted; of equal keys the last value counts, at the place of the first. A fault names
what was expected with line, column and character of the place. Values are read however deep they are
nested: no stack runs out here.
-/

namespace Triage.Json

inductive Problem where
  | value
  | propertyName
  | colon
  | comma
  | extra
  | unterminated
  | control
  | escape
  | unicodeEscape
  | byteOrderMark
  | number (fault : Decimal.IntegerFault)
deriving Repr, DecidableEq

/-- What is wrong, and how many characters stand from there to the end. -/
structure Stop where
  problem : Problem
  remaining : Nat
deriving Repr, DecidableEq

abbrev Reader (α : Type) := List Char → Except Stop (α × List Char)

def stop {α : Type} (problem : Problem) (cs : List Char) : Except Stop α :=
  .error ⟨problem, cs.length⟩

def isSpace (c : Char) : Bool := c == ' ' || c == '\t' || c == '\n' || c == '\r'

def skipSpace (cs : List Char) : List Char := cs.dropWhile isSpace

def hexValue? (c : Char) : Option Nat := Decimal.digitOf? 16 c

/-- Four hexadecimal digits that something follows. -/
def hexQuad? : List Char → Option (Nat × List Char)
  | a :: b :: c :: d :: next :: rest => do
    let a ← hexValue? a
    let b ← hexValue? b
    let c ← hexValue? c
    let d ← hexValue? d
    return (((a * 16 + b) * 16 + c) * 16 + d, next :: rest)
  | _ => none

/-- The character of a one-letter escape. -/
def escaped? : Char → Option Char
  | '"' => some '"'
  | '\\' => some '\\'
  | '/' => some '/'
  | 'b' => some '\x08'
  | 'f' => some '\x0c'
  | 'n' => some '\n'
  | 'r' => some '\r'
  | 't' => some '\t'
  | _ => none

def isHighSurrogate (n : Nat) : Bool := 0xD800 ≤ n && n ≤ 0xDBFF

def isLowSurrogate (n : Nat) : Bool := 0xDC00 ≤ n && n ≤ 0xDFFF

/-- The character of a code unit. Texts hold no half of a pair: one that stands alone becomes the
replacement character, and is printed as such where it could not be encoded. -/
def unitChar (n : Nat) : Char := if n.isValidChar then Char.ofNat n else '\uFFFD'

/-- The second half of a pair, if one follows. -/
def secondHalf (first : Nat) (cs : List Char) : Except Stop (Char × List Char) :=
  match cs with
  | '\\' :: 'u' :: digits =>
    if isHighSurrogate first && 4 < digits.length then
      match hexQuad? digits with
      | none => stop .unicodeEscape ('u' :: digits)
      | some (second, rest) =>
        if isLowSurrogate second then
          .ok (Char.ofNat (0x10000 + (first - 0xD800) * 0x400 + (second - 0xDC00)), rest)
        else .ok (unitChar first, cs)
    else .ok (unitChar first, cs)
  | _ => .ok (unitChar first, cs)

/-- The characters of a string up to the closing quote; `start` is the place of the opening one. -/
def stringBody (start : Nat) : Nat → List Char → List Char → Except Stop (List Char × List Char)
  | 0, _, _ => .error ⟨.unterminated, start⟩
  | _ + 1, _, [] => .error ⟨.unterminated, start⟩
  | fuel + 1, done, c :: rest =>
    if c == '"' then .ok (done.reverse, rest)
    else if c == '\\' then
      match rest with
      | [] => .error ⟨.unterminated, start⟩
      | 'u' :: digits =>
        match hexQuad? digits with
        | none => stop .unicodeEscape rest
        | some (unit, more) => do
          let (c, more) ← secondHalf unit more
          stringBody start fuel (c :: done) more
      | e :: more =>
        match escaped? e with
        | some c => stringBody start fuel (c :: done) more
        | none => stop .escape (c :: rest)
    else if c.toNat ≤ 0x1F then stop .control (c :: rest)
    else stringBody start fuel (c :: done) rest

/-- A string behind its opening quote. -/
def string (cs : List Char) : Except Stop (String × List Char) := do
  let (body, rest) ← stringBody (cs.length + 1) (cs.length + 1) [] cs
  return (String.ofList body, rest)

/-- The part of a number behind its whole digits: point and exponent where they are complete. -/
def numberTail (cs : List Char) : List Char × List Char :=
  let (point, rest) := match cs with
    | '.' :: more =>
      let ds := more.takeWhile Char.isDigit
      if ds.isEmpty then ([], cs) else ('.' :: ds, more.dropWhile Char.isDigit)
    | _ => ([], cs)
  match rest with
  | e :: more =>
    if e == 'e' || e == 'E' then
      let (sign, body) := match more with
        | '+' :: body => (['+'], body)
        | '-' :: body => (['-'], body)
        | body => ([], body)
      let ds := body.takeWhile Char.isDigit
      if ds.isEmpty then (point, rest) else (point ++ 'e' :: sign ++ ds, body.dropWhile Char.isDigit)
    else (point, rest)
  | [] => (point, rest)

/-- A number; its whole part has no leading zero. -/
def number (cs : List Char) : Except Stop (Data × List Char) :=
  let (negative, body) := match cs with
    | '-' :: body => (true, body)
    | body => (false, body)
  let whole := match body with
    | '0' :: _ => ['0']
    | _ => body.takeWhile Char.isDigit
  if whole.isEmpty then stop .value cs
  else
    let rest := body.drop whole.length
    let (tail, rest) := numberTail rest
    if tail.isEmpty then
      match Decimal.integer 10 (String.ofList whole) with
      | .ok n => .ok (.int (if negative then -n else n), rest)
      | .error fault => stop (.number fault) cs
    else
      let magnitude := (Decimal.magnitude? (whole ++ tail)).getD 0
      .ok (.float (if negative then -magnitude else magnitude), rest)

/-- The words that stand for values. -/
def words : List (String × Data) :=
  [("null", .null), ("true", .bool true), ("false", .bool false), ("NaN", .float (0 / 0)),
    ("Infinity", .float (1 / 0)), ("-Infinity", .float (-1 / 0))]

def word? (cs : List Char) : Option (Data × List Char) :=
  words.findSome? fun (name, value) => (name.toList.isPrefixOf? cs).map fun rest => (value, rest)

mutual

/-- A value from its first character on. -/
def value (fuel : Nat) (cs : List Char) : Except Stop (Data × List Char) :=
  match fuel with
  | 0 => stop .value cs
  | fuel + 1 =>
    match cs with
    | '"' :: rest => do
      let (s, rest) ← string rest
      return (.text s, rest)
    | '[' :: rest =>
      match skipSpace rest with
      | ']' :: rest => .ok (.list [], rest)
      | rest => items fuel [] rest
    | '\x7b' :: rest =>
      match skipSpace rest with
      | '\x7d' :: rest => .ok (.map [], rest)
      | rest => members fuel [] rest
    | cs => match word? cs with
      | some found => .ok found
      | none => number cs

/-- The items of a list, those read so far last to first. -/
def items (fuel : Nat) (done : List Data) (cs : List Char) : Except Stop (Data × List Char) :=
  match fuel with
  | 0 => stop .value cs
  | fuel + 1 => do
    let (item, rest) ← value fuel cs
    match skipSpace rest with
    | ']' :: rest => .ok (.list (item :: done).reverse, rest)
    | ',' :: rest => items fuel (item :: done) (skipSpace rest)
    | rest => stop .comma rest

/-- The members of a mapping, the entries read so far given. -/
def members (fuel : Nat) (done : List (Data × Data)) (cs : List Char) :
    Except Stop (Data × List Char) :=
  match fuel with
  | 0 => stop .propertyName cs
  | fuel + 1 =>
    match cs with
    | '"' :: rest => do
      let (key, rest) ← string rest
      match skipSpace rest with
      | ':' :: rest =>
        let (item, rest) ← value fuel (skipSpace rest)
        let done := Data.put (.text key) item done
        match skipSpace rest with
        | '\x7d' :: rest => .ok (.map done, rest)
        | ',' :: rest => members fuel done (skipSpace rest)
        | rest => stop .comma rest
      | rest => stop .colon rest
    | cs => stop .propertyName cs

end

/-- A whole text: one value with space around it. -/
def document (cs : List Char) : Except Stop Data :=
  match cs with
  | '\uFEFF' :: _ => stop .byteOrderMark cs
  | cs => do
    let (found, rest) ← value (2 * cs.length + 2) (skipSpace cs)
    match skipSpace rest with
    | [] => return found
    | rest => stop .extra rest

/-- A place in a text. -/
structure Place where
  line : Nat
  column : Nat
  offset : Nat
deriving Repr, DecidableEq

/-- Counts lines by their line feeds. -/
def Place.after (before : List Char) : Place where
  line := before.count '\n' + 1
  column := (before.reverse.takeWhile (· != '\n')).length + 1
  offset := before.length

inductive Fault where
  | malformed (problem : Problem) (place : Place)
  | number (fault : Decimal.IntegerFault)
deriving Repr, DecidableEq

namespace Problem

def message : Problem → String
  | .value => "Expecting value"
  | .propertyName => "Expecting property name enclosed in double quotes"
  | .colon => "Expecting ':' delimiter"
  | .comma => "Expecting ',' delimiter"
  | .extra => "Extra data"
  | .unterminated => "Unterminated string starting at"
  | .control => "Invalid control character at"
  | .escape => "Invalid \\escape"
  | .unicodeEscape => "Invalid \\uXXXX escape"
  | .byteOrderMark => "Unexpected UTF-8 BOM (decode using utf-8-sig)"
  | .number fault => fault.message

end Problem

namespace Fault

def message : Fault → String
  | .malformed problem place =>
    s!"{problem.message}: line {place.line} column {place.column} (char {place.offset})"
  | .number fault => fault.message

end Fault

/-- Reads a text as one value. -/
def read (s : String) : Except Fault Data :=
  let cs := s.toList
  match document cs with
  | .ok found => .ok found
  | .error ⟨.number fault, _⟩ => .error (.number fault)
  | .error ⟨problem, remaining⟩ =>
    .error (.malformed problem (.after (cs.take (cs.length - remaining))))

end Triage.Json
