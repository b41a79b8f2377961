import PacketMeter.Text.Decimal

/-!
# JSON values

A value is kept close to its text.  A number is its literal, since the reader of
a value decides whether it wants a whole number of some range.  The object keeps
its members in their order, repeated names included.

A JSON string is a sequence of characters in which an escape may also stand for
one half of a surrogate pair.  Such a string is a legal part of a text but spells
no text itself; `JsonString.text?` tells the two apart.

`Json.render` prints a value without blanks.  It escapes the quote, the backslash
and the control characters below `U+0020`, and nothing else.
-/

namespace PacketMeter

/-- A part of a JSON string: a character, or an unpaired half of a surrogate
pair. -/
inductive JsonChar where
  | char (c : Char)
  | half (unit : Nat)
  deriving Repr, DecidableEq, Inhabited

/-- The content of a JSON string. -/
abbrev JsonString := List JsonChar

namespace JsonString

/-- The string that spells a text. -/
def ofText (s : String) : JsonString := s.toList.map .char

/-- The characters of a string without unpaired halves. -/
def chars? : JsonString → Option (List Char)
  | [] => some []
  | .char c :: rest => (chars? rest).map (c :: ·)
  | .half _ :: _ => none

/-- The text that a string spells. -/
def text? (s : JsonString) : Option String := (chars? s).map String.ofList

/-- A string made from a text spells that text. -/
@[simp] theorem text?_ofText (s : String) : text? (ofText s) = some s := by
  have h : ∀ cs : List Char, chars? (cs.map .char) = some cs := by
    intro cs
    induction cs with
    | nil => rfl
    | cons c cs ih => simp [chars?, ih]
  simp [text?, ofText, h]

end JsonString

/-- A JSON value. -/
inductive Json where
  | null
  | bool (b : Bool)
  | number (literal : String)
  | string (content : JsonString)
  | array (elements : List Json)
  | object (members : List (JsonString × Json))
  deriving Repr, Inhabited

namespace Json

/-- The string value that spells a text. -/
def ofText (s : String) : Json := .string (JsonString.ofText s)

def ofInt (n : Int) : Json := .number (toString n)

/-- The object with the given names and values. -/
def ofFields (fields : List (String × Json)) : Json :=
  .object (fields.map fun (name, value) => (JsonString.ofText name, value))

def hex4 (n : Nat) : String :=
  let digits := String.ofList (Nat.toDigits 16 n)
  String.ofList (List.replicate (4 - digits.length) '0') ++ digits

/-- How a character is written inside quotes. -/
def escaped (c : Char) : String :=
  if c = '"' then "\\\""
  else if c = '\\' then "\\\\"
  else if c = '\x08' then "\\b"
  else if c = '\x0c' then "\\f"
  else if c = '\n' then "\\n"
  else if c = '\r' then "\\r"
  else if c = '\t' then "\\t"
  else if c.toNat < 0x20 then "\\u" ++ hex4 c.toNat
  else c.toString

/-- The text of a string, with its quotes. -/
def quoted (s : JsonString) : String :=
  let part : JsonChar → String
    | .char c => escaped c
    | .half unit => "\\u" ++ hex4 unit
  "\"" ++ String.join (s.map part) ++ "\""

mutual

/-- The text of a value, without blanks. -/
def render : Json → String
  | .null => "null"
  | .bool b => if b then "true" else "false"
  | .number literal => literal
  | .string content => quoted content
  | .array elements => "[" ++ String.intercalate "," (renderAll elements) ++ "]"
  | .object members => "\x7b" ++ String.intercalate "," (renderMembers members) ++ "\x7d"

def renderAll : List Json → List String
  | [] => []
  | v :: vs => render v :: renderAll vs

def renderMembers : List (JsonString × Json) → List String
  | [] => []
  | (name, v) :: ms => (quoted name ++ ":" ++ render v) :: renderMembers ms

end

/-- The whole number that a literal stands for.  A literal with a point or an
exponent stands for none, and neither does a negative zero. -/
def integer? (literal : String) : Option Int :=
  match literal.toList with
  | '-' :: digits => match Decimal.natural? digits with
    | some 0 | none => none
    | some n => some (-(n : Int))
  | digits => (Decimal.natural? digits).map Int.ofNat

/-- The whole number between two bounds that a value is. -/
def integerBetween? (least greatest : Int) : Json → Option Int
  | .number literal => (integer? literal).filter fun n => decide (least ≤ n ∧ n ≤ greatest)
  | _ => none

/-- The whole number below `bound` that a value is. -/
def natural? (bound : Nat) (v : Json) : Option Nat :=
  (integerBetween? 0 (bound - 1 : Int) v).map Int.toNat

/-- The text that a value is. -/
def text? : Json → Option String
  | .string content => content.text?
  | _ => none

end Json

end PacketMeter
