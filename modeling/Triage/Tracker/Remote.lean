import Triage.Tracker.Issue

/-!
# Labels and columns on the tracker

Labels and columns as they are on the tracker. Their fields are kept as they come.
-/

namespace Triage

structure RemoteLabel where
  name : Data
  color : Data
  description : Data
  id : Data

namespace RemoteLabel

/-- Reads a label; a color that is not truthy counts as none. -/
def ofData (raw : Data) : Except Fault RemoteLabel := do
  let name ← raw.require "name"
  let color ← raw.ask "color"
  return ⟨name, color.orElse (.text ""), ← raw.ask "description", ← raw.ask "id"⟩

/-- A label whose fields have the types they should have. -/
def typed (name color : String) (description : Option String) (id : Data) : RemoteLabel :=
  ⟨.text name, .text color, (description.map Data.text).getD .null, id⟩

end RemoteLabel

structure RemoteColumn where
  name : Data
  id : Data

namespace RemoteColumn

/-- Reads a column: its name alone, or a mapping with a name or a title. -/
def ofData : Data → Except Fault RemoteColumn
  | .text name => .ok ⟨.text name, .null⟩
  | raw => do
    let name := (← raw.ask "name").orElse (← raw.ask "title")
    if name.truthy then return ⟨name, ← raw.ask "id"⟩ else throw .namelessColumn

def typed (name : String) (id : Data) : RemoteColumn := ⟨.text name, id⟩

end RemoteColumn

end Triage
