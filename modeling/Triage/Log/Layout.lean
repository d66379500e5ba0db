import Triage.Log.Record

/-!
# Layouts

A layout says what the line of a record looks like: fixed text and fields, each field in a width, on the
left or on the right of it. The context names what the program is working on.
-/

namespace Triage.Log

inductive Field where
  | message
  | level
  | number
  | logger
  | time
  | context
deriving Repr, DecidableEq

namespace Field

def all : List Field := [.message, .level, .number, .logger, .time, .context]

/-- The name of a field in a written layout. -/
def name : Field → String
  | .message => "message"
  | .level => "levelname"
  | .number => "levelno"
  | .logger => "name"
  | .time => "asctime"
  | .context => "repo_context"

def ofName? (s : String) : Option Field := all.find? (·.name == s)

end Field

/-- How the text of a field is shown. -/
structure Shape where
  width : Nat
  /-- At most so many characters of the text are kept. -/
  limit : Option Nat
  leftward : Bool
  zeros : Bool
  quoted : Bool
deriving Repr, DecidableEq

namespace Shape

def plain : Shape := ⟨0, none, false, false, false⟩

/-- A text in its shape; only numbers are filled up with zeros. -/
def apply (shape : Shape) (numeric : Bool) (s : String) : String :=
  let s := if shape.quoted then Text.quoted s else s
  let cs := if numeric then s.toList else (shape.limit.map s.toList.take).getD s.toList
  let missing := shape.width - cs.length
  String.ofList <|
    if shape.leftward then cs ++ List.replicate missing ' '
    else if shape.zeros && numeric then
      match cs with
      | '-' :: digits => '-' :: List.replicate missing '0' ++ digits
      | digits => List.replicate missing '0' ++ digits
    else List.replicate missing ' ' ++ cs

end Shape

inductive Piece where
  | literal (s : String)
  /-- A field, as a number if it is to be one. -/
  | field (f : Field) (shape : Shape) (numeric : Bool)
deriving Repr, DecidableEq

/-- The pieces of a line. -/
abbrev Layout := List Piece

/-- The time of a record; parts of seconds are not kept. -/
def stamp (t : Time.Moment) : String :=
  let u := Time.Moment.ofInstant t.instant
  String.ofList (Decimal.digits u.date.year) ++ "-"
    ++ String.ofList (Decimal.padded 2 u.date.month ++ '-' :: Decimal.padded 2 u.date.day
      ++ ' ' :: Decimal.padded 2 u.hour ++ ':' :: Decimal.padded 2 u.minute
      ++ ':' :: Decimal.padded 2 u.second) ++ ",000"

namespace Record

def field (context : String) (r : Record) : Field → String
  | .message => r.text
  | .level => Level.nameOf r.level
  | .number => toString r.level
  | .logger => r.logger
  | .time => stamp r.time
  | .context => context

def piece (context : String) (r : Record) : Piece → String
  | .literal s => s
  | .field f shape numeric => shape.apply numeric (r.field context f)

/-- The line of a record in a layout. -/
def line (context : String) (r : Record) (layout : Layout) : String :=
  String.join (layout.map (r.piece context))

end Record

namespace Layout

def plainField (f : Field) : Piece := .field f .plain false

/-- The layout of all lines of the log. -/
def standard : Layout :=
  [.literal "[", plainField .time, .literal "] ", plainField .level, .literal " ", plainField .context,
    .literal " ", plainField .logger, .literal ": ", plainField .message]

end Layout

end Triage.Log
