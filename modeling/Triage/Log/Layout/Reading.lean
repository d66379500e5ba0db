import Triage.Log.Layout
import Triage.Text.Word

/-!
# Reading layouts

In a written layout a percent sign starts a field: its name in parentheses, flags, a width, a limit
behind a point, and a letter for the form. Two percent signs stand for one. A layout has to have a field.
-/

namespace Triage.Log

inductive LayoutFault where
  /-- There is no field in the layout. -/
  | fieldless (written : String)
  /-- A field that the record does not have. -/
  | unknown (name : String)
  /-- A text where a number is wanted. -/
  | notNumber
  | openName
  | incomplete
  | letter (c : Char) (position : Nat)
deriving Repr, DecidableEq

namespace LayoutFault

/-- The fault is one of kind, not of value. -/
def isKind : LayoutFault → Bool
  | .notNumber => true
  | _ => false

def message : LayoutFault → String
  | .fieldless written => "Invalid format '" ++ written ++ "' for '%' style"
  | .unknown name => "Formatting field not found in record: " ++ Text.quoted name
  | .notNumber => "a number is required"
  | .openName => "incomplete format key"
  | .incomplete => "incomplete format"
  | .letter c position =>
    "unsupported format character '" ++ c.toString ++ "' (0x" ++ String.ofList (Text.Quoted.hex 1 c.toNat)
      ++ ") at index " ++ toString position

end LayoutFault

namespace Layout

def isFlag (c : Char) : Bool := c == '-' || c == '0' || c == '+' || c == ' ' || c == '#'

/-- Flags, width, limit and letter of a field. -/
def splitShape (cs : List Char) : Shape × List Char :=
  let flags := cs.takeWhile isFlag
  let rest := cs.dropWhile isFlag
  let width := Decimal.naturalOf (rest.takeWhile Char.isDigit)
  let rest := rest.dropWhile Char.isDigit
  let (limit, rest) := match rest with
    | '.' :: more =>
      (some (Decimal.naturalOf (more.takeWhile Char.isDigit)), more.dropWhile Char.isDigit)
    | more => (none, more)
  (⟨width, limit, flags.contains '-', flags.contains '0', false⟩, rest)

/-- The form of a field that a letter stands for: as text, quoted, or as a number. -/
def formOf? : Char → Option (Bool × Bool)
  | 's' => some (false, false)
  | 'r' | 'a' => some (true, false)
  | 'd' | 'i' | 'u' => some (false, true)
  | _ => none

/-- A field with the form that a letter asks for. -/
def pieceOf (withContext : Bool) (name : List Char) (shape : Shape) (letter : Char) (position : Nat) :
    Except LayoutFault Piece := do
  let known := (Field.ofName? (String.ofList name)).filter fun f => withContext || f != .context
  let some field := known | throw (.unknown (String.ofList name))
  let some (quoted, numeric) := formOf? letter | throw (.letter letter position)
  if numeric && field != .number then throw .notNumber
  return .field field { shape with quoted := quoted && field != .number }
    (numeric || (quoted && field == .number))

/-- Reads pieces; `fuel` bounds the characters that are left of `size`. -/
def piecesFrom (withContext : Bool) (size : Nat) : (fuel : Nat) → List Char → Except LayoutFault Layout
  | 0, _ | _, [] => .ok []
  | fuel + 1, '%' :: '%' :: rest => return .literal "%" :: (← piecesFrom withContext size fuel rest)
  | fuel + 1, '%' :: '(' :: rest => do
    let name := rest.takeWhile (· != ')')
    match rest.dropWhile (· != ')') with
    | [] => throw .openName
    | _ :: behind =>
      let (shape, rest) := splitShape behind
      match rest with
      | [] => throw .incomplete
      | letter :: rest =>
        let first ← pieceOf withContext name shape letter (size - rest.length - 1)
        return first :: (← piecesFrom withContext size fuel rest)
  | _ + 1, '%' :: rest =>
    match rest with
    | [] => throw .incomplete
    | letter :: rest => throw (.letter letter (size - rest.length - 1))
  | fuel + 1, c :: rest => return .literal c.toString :: (← piecesFrom withContext size fuel rest)

/-- The letters that may end a field. -/
def letters : List Char := "diouxefgcrsa%".toList

/-- A field stands at the start of a text. -/
def startsField : List Char → Bool
  | '%' :: '(' :: rest =>
    let name := rest.takeWhile Text.isWord
    match rest.dropWhile Text.isWord with
    | ')' :: behind => !name.isEmpty && (splitShape behind).2.head?.any fun c => letters.contains c.toLower
    | _ => false
  | _ => false

/-- A field stands somewhere in a text. -/
def hasField : List Char → Bool
  | [] => false
  | c :: rest => startsField (c :: rest) || hasField rest

/-- Reads a layout for records that have a context or not. An empty one shows the message. -/
def ofText (withContext : Bool) (written : String) : Except LayoutFault Layout :=
  let cs := written.toList
  if cs.isEmpty then .ok [plainField .message]
  else if hasField cs then piecesFrom withContext cs.length cs.length cs
  else .error (.fieldless written)

end Layout

end Triage.Log
