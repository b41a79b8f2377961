import PacketMeter.Json

/-!
# Named fields of a JSON value

A value with named fields is written as an object, or as an array that holds
exactly the fields in their order.  In an object unknown names are ignored, the
order is free, and a repeated known name is an error, as is a name that is no
text.
-/

namespace PacketMeter.Json

/-- The members of an object under their names, or `none` when a name is no
text. -/
def namedMembers? : List (JsonString × Json) → Option (List (String × Json))
  | [] => some []
  | (name, value) :: rest => do
    return (← name.text?, value) :: (← namedMembers? rest)

/-- The value of one name, absent when no member has it; two members with the
name are an error. -/
def uniqueMember? (name : String) (members : List (String × Json)) : Option (Option Json) :=
  match members.filter fun m => m.1 == name with
  | [] => some none
  | [m] => some (some m.2)
  | _ => none

/-- The fields of a value in the order of their names, each absent where an
object lacks it. -/
def fields? (names : List String) : Json → Option (List (Option Json))
  | .object members => do
    let named ← namedMembers? members
    names.mapM fun name => uniqueMember? name named
  | .array elements =>
    if elements.length = names.length then some (elements.map some) else none
  | _ => none

/-- The fields of a value that has all of them. -/
def allFields? (names : List String) (v : Json) : Option (List Json) := do
  (← fields? names v).mapM id

end PacketMeter.Json
