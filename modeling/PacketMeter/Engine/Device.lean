import PacketMeter.Json.Fields
import PacketMeter.Pattern
import PacketMeter.Text.Search

/-!
# Devices

An engine reports its devices by name.  A name of the form `7_Some adapter` holds
the number that the engine knows the device by and a description; any other name
describes itself.
-/

namespace PacketMeter

/-- A device of the engine. -/
structure Device where
  index : Nat
  id? : Option UInt32
  name : String
  description : String
  deriving Repr, DecidableEq, Inhabited

namespace Device

/-- The number and the description that a name holds. -/
def numbered? (name : String) : Option (UInt32 × String) := do
  let (number, rest) ← Text.cut? '_' name.toList
  return ((← Decimal.unsigned? (UInt32.size - 1) number).toUInt32, String.ofList rest)

/-- The device with a name at a place of the list. -/
def parse (index : Nat) (name : String) : Device :=
  match numbered? name with
  | some (id, description) => ⟨index, some id, name, description⟩
  | none => ⟨index, none, name, name⟩

/-- The devices with the given names, the first at the place `base`. -/
def parseAll (base : Nat) : List String → List Device
  | [] => []
  | name :: names => parse base name :: parseAll (base + 1) names

/-- How a device is shown. -/
def shown (d : Device) : String := if d.description.isEmpty then d.name else d.description

/-- The line of a device in a list. -/
def text (d : Device) : String := toString d.index ++ ": " ++ d.shown

/-- The first device whose name or description holds a pattern. -/
def find? (devices : List Device) (p : Pattern) : Option Device :=
  devices.find? fun d => p.occursIn d.name || p.occursIn d.description

/-- The names of the fields of a device. -/
def fieldNames : List String := ["index", "id", "name", "description"]

/-- A device as a JSON value. -/
def toJson (d : Device) : Json :=
  Json.ofFields [
    ("index", Json.ofInt d.index),
    ("id", match d.id? with
      | some id => Json.ofInt id.toNat
      | none => .null),
    ("name", Json.ofText d.name),
    ("description", Json.ofText d.description)]

/-- The number that a field describes, where `null` and no field are none. -/
def idOfJson? : Option Json → Option (Option UInt32)
  | none | some .null => some none
  | some v => (v.natural? UInt32.size).map fun n => some n.toUInt32

/-- The device that a JSON value describes. -/
def ofJson? (v : Json) : Option Device := do
  match ← v.fields? fieldNames with
  | [some index, id?, some name, some description] =>
    return {
      index := ← index.natural? UInt64.size
      id? := ← idOfJson? id?
      name := ← name.text?
      description := ← description.text? }
  | _ => none

@[simp] theorem name_parse (index : Nat) (name : String) : (parse index name).name = name := by
  unfold parse; split <;> rfl

@[simp] theorem index_parse (index : Nat) (name : String) : (parse index name).index = index := by
  unfold parse; split <;> rfl

end Device

end PacketMeter
