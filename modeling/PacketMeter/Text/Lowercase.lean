import PacketMeter.Text.CaseTable

/-!
# Lower case

Lower-casing replaces every character by its full lower-case form.  Two
characters are not covered by the table of one-to-one forms:

* `U+0130`, whose lower-case form is an `i` followed by a combining dot;
* the capital sigma, whose lower-case form depends on its place.  At the end of
  a word it is the final sigma `ς`, elsewhere it is `σ`.

A sigma ends a word when a cased character stands before it and none after it,
where case-ignorable characters in between do not count.
-/

namespace PacketMeter.Text

/-- The property `Cased`. -/
def isCased (c : Char) : Bool := CodeRange.covers casedRanges c.toNat

/-- The property `Case_Ignorable`. -/
def isCaseIgnorable (c : Char) : Bool := CodeRange.covers ignorableRanges c.toNat

/-- The lower-case form of a character in isolation. -/
def lowerChar (c : Char) : List Char :=
  if c.toNat = 0x130 then ['i', '\u0307']
  else match CaseRun.image? lowercaseRanges c.toNat with
    | some n => [Char.ofNat n]
    | none => [c]

/-- Whether the first character that is not case-ignorable is cased. -/
def startsCased (s : List Char) : Bool :=
  match s.dropWhile isCaseIgnorable with
  | c :: _ => isCased c
  | [] => false

/-- Whether a sigma between the two texts ends a word.  The text before it is
given backwards. -/
def endsWord (before after : List Char) : Bool := startsCased before && !startsCased after

/-- Lower-casing of the rest of a text, the part before it given backwards. -/
def lowerAfter (before : List Char) : List Char → List Char
  | [] => []
  | c :: rest =>
    (if c = 'Σ' then [if endsWord before rest then 'ς' else 'σ'] else lowerChar c) ++
      lowerAfter (c :: before) rest

/-- The lower-case form of a text. -/
def lowercase (s : List Char) : List Char := lowerAfter [] s

@[simp] theorem lowercase_nil : lowercase [] = [] := rfl

@[simp] theorem lowerAfter_nil (before : List Char) : lowerAfter before [] = [] := rfl

end PacketMeter.Text
