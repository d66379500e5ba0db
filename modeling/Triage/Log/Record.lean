import Triage.Note

/-!
# Log records

A record is one message of a part of the program, with its level and time. On the console a record
stands out by its color: errors are red and warnings yellow, and a message for information gets the color
and the symbol of the first word in the list of highlights that it contains.
-/

namespace Triage.Log

structure Record where
  level : Int
  logger : String
  text : String
  time : Time.Moment

inductive Color where
  | red
  | green
  | yellow
  | blue
  | magenta
  | gray
  | orange
deriving Repr, DecidableEq

namespace Color

def name : Color → String
  | .red => "red"
  | .green => "green"
  | .yellow => "yellow"
  | .blue => "blue"
  | .magenta => "magenta"
  | .gray => "gray"
  | .orange => "orange"

/-- The control sequence that turns a color on. -/
def code : Color → String
  | .red => "\x1b[31m"
  | .green => "\x1b[32m"
  | .yellow => "\x1b[33m"
  | .blue => "\x1b[34m"
  | .magenta => "\x1b[35m"
  | .gray => "\x1b[90m"
  | .orange => "\x1b[38;5;208m"

/-- The control sequence that turns colors off. -/
def reset : String := "\x1b[0m"

/-- A text in a color. -/
def paint (c : Color) (s : String) : String := c.code ++ s ++ reset

end Color

/-- A word that tells of an event, with the color and the symbol of the event. -/
structure Highlight where
  word : String
  color : Color
  symbol : String
deriving Repr, DecidableEq

/-- The highlights; the first word that occurs decides. -/
def highlights : List Highlight := [
  ⟨"loading", .green, ">>>"⟩,
  ⟨"generating", .green, ">>>"⟩,
  ⟨"writing", .green, ">>>"⟩,
  ⟨"completed", .green, "✓"⟩,
  ⟨"generated", .green, "✓"⟩,
  ⟨"valid config", .green, "✓"⟩,
  ⟨"label sync plan", .blue, "⇄"⟩,
  ⟨"column sync plan", .blue, "⇄"⟩,
  ⟨"escalat", .magenta, "⬆"⟩,
  ⟨"blocked", .yellow, "→"⟩,
  ⟨"warning", .yellow, "→"⟩,
  ⟨"skipping", .gray, "⊘"⟩,
  ⟨"no issues", .gray, "⊘"⟩,
  ⟨"already", .gray, "⊘"⟩,
  ⟨"inferred", .orange, "⚙"⟩]

/-- The highlight of a message, without regard to case. -/
def highlight? (message : String) : Option Highlight :=
  let lowered := (Text.lower message).toList
  highlights.find? fun h => Text.occursIn h.word.toList lowered

/-- The line of a record as the console shows it. -/
def Record.paint (r : Record) (line : String) : String :=
  if Level.error.number ≤ r.level then Color.red.paint line
  else if Level.warning.number ≤ r.level then Color.yellow.paint line
  else if r.level = Level.info.number then
    match highlight? r.text with
    | some h => h.color.paint (h.symbol ++ " " ++ line)
    | none => line
  else line

end Triage.Log
