import PacketMeter.Json.Fields
import PacketMeter.Stats.Aggregator

/-!
# Sources of counts as JSON

A source is written as its name.  It is read from its name, or from an object whose
only member has that name and holds `null`.
-/

namespace PacketMeter.Stats.Source

def name : Source → String
  | managed => "Managed"
  | native => "Native"

def named? (s : String) : Option Source :=
  if s = "Managed" then some managed else if s = "Native" then some native else none

/-- A source as a JSON value. -/
def toJson (s : Source) : Json := Json.ofText s.name

/-- The source that a JSON value describes. -/
def ofJson? : Json → Option Source
  | .string s => s.text?.bind named?
  | .object [(key, .null)] => key.text?.bind named?
  | _ => none

@[simp] theorem named?_name (s : Source) : named? s.name = some s := by
  cases s <;> rfl

end PacketMeter.Stats.Source
