import PacketMeter.Duration
import PacketMeter.Filter

/-!
# Typed option values

The value of an option is a text, and each option reads it in its own way.  A
text that its option cannot read is an invalid value, whatever is wrong with it.
-/

namespace PacketMeter.CommandLine

/-- How snapshots are shown: as log lines or as JSON. -/
inductive Output where
  | log
  | json
  deriving Repr, DecidableEq, Inhabited

/-- A text that is not a value of its option. -/
structure InvalidValue where
  text : String
  deriving Repr, DecidableEq, Inhabited

/-- The message about an invalid value. -/
def InvalidValue.message (e : InvalidValue) : String :=
  "error: invalid argument value '" ++ e.text ++ "'\n"

/-- The value of an option that may be absent. -/
def value? {α : Type} (read? : String → Option α) : Option String → Except InvalidValue (Option α)
  | none => .ok none
  | some s =>
    match read? s with
    | some v => .ok (some v)
    | none => .error ⟨s⟩

/-- A whole number below `2 ^ bits`. -/
def word? (bits : Nat) (s : String) : Option Nat := Decimal.unsigned? ((1 <<< bits) - 1) s.toList

/-- A whole number of 32 bits with a sign. -/
def integer? (s : String) : Option Int :=
  Decimal.signed? Int32.minValue.toInt Int32.maxValue.toInt s.toList

def bool? (s : String) : Option Bool :=
  if s = "true" then some true else if s = "false" then some false else none

def output? (s : String) : Option Output :=
  if s = "log" then some .log else if s = "json" then some .json else none

/-- A filter.  Every text is one. -/
def filter? (s : String) : Option Filter := some (Filter.parse s)

def millis? (s : String) : Option Duration := (word? 64 s).map Duration.ofMillis

/-- An absent option has no value. -/
@[simp] theorem value?_none {α : Type} (read? : String → Option α) :
    value? read? none = .ok none := rfl

/-- Reading fails exactly on the texts that are no values, and names them. -/
theorem value?_eq_error_iff {α : Type} {read? : String → Option α} {s? : Option String}
    {e : InvalidValue} :
    value? read? s? = .error e ↔ s? = some e.text ∧ read? e.text = none := by
  cases s? with
  | none => simp [value?]
  | some s =>
    cases h : read? s with
    | none =>
      simp only [value?, h]
      constructor
      · intro he
        cases he
        exact ⟨rfl, h⟩
      · rintro ⟨hs, -⟩
        cases e
        simp_all
    | some v =>
      simp only [value?, h]
      constructor
      · intro he
        cases he
      · rintro ⟨hs, hn⟩
        simp_all

end PacketMeter.CommandLine
