import Triage.Number
import Triage.Time.Moment

/-!
# Document values

The values that a document or a snapshot can hold: nothing, truth values, numbers, text, octets, dates
and moments, and lists, tuples, sets and mappings of such values. A mapping keeps its entries in order.
-/

namespace Triage

inductive Data where
  | null
  | bool (b : Bool)
  | int (n : Int)
  | float (x : Float)
  | text (s : String)
  | octets (bytes : List UInt8)
  | date (d : Time.Date)
  | moment (t : Time.Moment)
  | list (items : List Data)
  | tuple (items : List Data)
  | set (items : List Data)
  | map (entries : List (Data × Data))
deriving Inhabited

namespace Data

/-- The name of a value's kind. -/
def kind : Data → String
  | .null => "NoneType"
  | .bool _ => "bool"
  | .int _ => "int"
  | .float _ => "float"
  | .text _ => "str"
  | .octets _ => "bytes"
  | .date _ => "date"
  | .moment _ => "datetime"
  | .list _ => "list"
  | .tuple _ => "tuple"
  | .set _ => "set"
  | .map _ => "dict"

/-- Nothing, false, zero and everything empty are not truthy; all other values are. -/
def truthy : Data → Bool
  | .null => false
  | .bool b => b
  | .int n => n != 0
  | .float x => !(x == 0)
  | .text s => s != ""
  | .octets bytes => !bytes.isEmpty
  | .date _ | .moment _ => true
  | .list items | .tuple items | .set items => !items.isEmpty
  | .map entries => !entries.isEmpty

/-- Values that stand for numbers: truth values count as zero and one. -/
def number? : Data → Option Number
  | .bool b => some (.int (if b then 1 else 0))
  | .int n => some (.int n)
  | .float x => some (.float x)
  | _ => none

/-- Values that stand for quantities: truth values do not. -/
def measure? : Data → Option Number
  | .int n => some (.int n)
  | .float x => some (.float x)
  | _ => none

/-- Quantities that are not zero or less. -/
def weight? (value : Data) : Option Number := value.measure?.filter (!·.nonpositive)

def text? : Data → Option String
  | .text s => some s
  | _ => none

def ofNumber : Number → Data
  | .int n => .int n
  | .float x => .float x

/-- Two moments are equal when both are local with the same parts, or both have the same instant. -/
def sameMoment (a b : Time.Moment) : Bool :=
  a.offset.isSome == b.offset.isSome && a.instant == b.instant

mutual

/-- Equality of values: numbers by value, sets and mappings without regard to order. -/
def same : Data → Data → Bool
  | .null, .null => true
  | .text a, .text b => a == b
  | .octets a, .octets b => a == b
  | .date a, .date b => a == b
  | .moment a, .moment b => sameMoment a b
  | .list a, .list b => sameItems a b
  | .tuple a, .tuple b => sameItems a b
  | .set a, .set b => a.length == b.length && subset a b
  | .map a, .map b => a.length == b.length && subtable a b
  | .bool a, b => number? b == some (.int (if a then 1 else 0))
  | .int a, b => number? b == some (.int a)
  | .float a, b => number? b == some (.float a)
  | _, _ => false

def sameItems : List Data → List Data → Bool
  | [], [] => true
  | a :: as, b :: bs => same a b && sameItems as bs
  | _, _ => false

def subset : List Data → List Data → Bool
  | [], _ => true
  | a :: as, bs => bs.any (same a) && subset as bs

def subtable : List (Data × Data) → List (Data × Data) → Bool
  | [], _ => true
  | (k, v) :: rest, bs => bs.any (fun entry => same k entry.1 && same v entry.2) && subtable rest bs

end

instance : BEq Data := ⟨same⟩

mutual

/-- A value that cannot serve as a key. -/
def unhashable : Data → Bool
  | .list _ | .set _ | .map _ => true
  | .tuple items => anyUnhashable items
  | _ => false

def anyUnhashable : List Data → Bool
  | [] => false
  | item :: rest => unhashable item || anyUnhashable rest

end

/-- The value under a key of a mapping. -/
def lookup (key : String) : List (Data × Data) → Option Data
  | [] => none
  | (.text k, v) :: rest => if k = key then some v else lookup key rest
  | _ :: rest => lookup key rest

/-- The value under a key, or nothing. -/
def field (key : String) (entries : List (Data × Data)) : Data := (lookup key entries).getD .null

/-- Puts a value under a key: an equal key keeps its place and its form, a new one comes last. -/
def put (key value : Data) : List (Data × Data) → List (Data × Data)
  | [] => [(key, value)]
  | (k, v) :: rest => if same k key then (k, value) :: rest else (k, v) :: put key value rest

/-- A mapping with text keys. -/
def record (fields : List (String × Data)) : Data :=
  .map (fields.map fun entry => (.text entry.1, entry.2))

end Data

end Triage
