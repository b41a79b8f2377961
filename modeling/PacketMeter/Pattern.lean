import PacketMeter.Pattern.CharSet

/-!
# Patterns

A pattern describes texts.  `Pattern.ends` gives the places of a text that a
pattern can lead to from given places, and a pattern is found in a text when it
leads anywhere from anywhere.

A repeated pattern needs no more rounds than the text has places: every further
round stays where it is.
-/

namespace PacketMeter

/-- A condition on a place of a text.  Words are of ASCII characters or of all. -/
inductive Look where
  | textStart
  | textEnd
  | lineStart (crlf : Bool)
  | lineEnd (crlf : Bool)
  | boundary (ascii : Bool)
  | noBoundary (ascii : Bool)
  | wordStart (ascii : Bool)
  | wordEnd (ascii : Bool)
  | wordStartHalf (ascii : Bool)
  | wordEndHalf (ascii : Bool)
  deriving Repr, DecidableEq, Inhabited

/-- A description of texts. -/
inductive Pattern where
  | empty
  | char (set : CharSet)
  | look (condition : Look)
  | seq (a b : Pattern)
  | alt (a b : Pattern)
  | loop (a : Pattern) (least : Nat) (most? : Option Nat)
  deriving Repr, Inhabited

namespace Look

/-- Whether a neighbour of a place belongs to a word. -/
def isWordChar (ascii : Bool) : Option Char → Bool
  | none => false
  | some c => if ascii then CharSet.asciiWord.covers c.toNat else Text.isWord c

/-- Whether a place between two neighbours meets a condition.  A neighbour is
missing at the start and at the end of the text. -/
def holds (condition : Look) (before after : Option Char) : Bool :=
  match condition with
  | textStart => before.isNone
  | textEnd => after.isNone
  | lineStart false => before.isNone || before == some '\n'
  | lineStart true =>
    before.isNone || before == some '\n' || (before == some '\r' && after != some '\n')
  | lineEnd false => after.isNone || after == some '\n'
  | lineEnd true =>
    after.isNone || after == some '\r' || (after == some '\n' && before != some '\r')
  | boundary ascii => isWordChar ascii before != isWordChar ascii after
  | noBoundary ascii => isWordChar ascii before == isWordChar ascii after
  | wordStart ascii => !isWordChar ascii before && isWordChar ascii after
  | wordEnd ascii => isWordChar ascii before && !isWordChar ascii after
  | wordStartHalf ascii => !isWordChar ascii before
  | wordEndHalf ascii => !isWordChar ascii after

/-- Whether a place of a text meets a condition. -/
def holdsAt (condition : Look) (text : Array Char) (i : Nat) : Bool :=
  condition.holds (if i = 0 then none else text[i - 1]?) text[i]?

end Look

namespace Pattern

/-- Applies a function a number of times. -/
def iterate {α : Type} (f : α → α) : Nat → α → α
  | 0, a => a
  | n + 1, a => iterate f n (f a)

/-- The place after a character of a set. -/
def charEnd? (set : CharSet) (text : Array Char) (i : Nat) : Option Nat :=
  match text[i]? with
  | some c => if set.covers c.toNat then some (i + 1) else none
  | none => none

/-- The places that a pattern leads to from given places. -/
def ends : Pattern → Array Char → List Nat → List Nat
  | empty, _, starts => starts
  | char set, text, starts => starts.filterMap (charEnd? set text)
  | look condition, text, starts => starts.filter (condition.holdsAt text)
  | seq a b, text, starts => ends b text (ends a text starts)
  | alt a b, text, starts => (ends a text starts ++ ends b text starts).eraseDups
  | loop a least most?, text, starts =>
    let rounds := text.size + 1
    let optional := match most? with
      | none => rounds
      | some most => min (most - least) rounds
    let reached := iterate (ends a text) (min least rounds) starts
    iterate (fun places => (places ++ ends a text places).eraseDups) optional reached

/-- Whether a pattern is found in a text. -/
def occursIn (p : Pattern) (text : String) : Bool :=
  let chars := text.toList.toArray
  !(p.ends chars (List.range (chars.size + 1))).isEmpty

/-- About how many bytes a pattern takes when its repetitions are written out. -/
def weight : Pattern → Nat
  | empty => 0
  | char set => set.weight
  | look _ => 32
  | seq a b | alt a b => weight a + weight b
  | loop a least most? => (max least (most?.getD 0) + 1) * weight a

/-- The empty pattern is found in every text. -/
@[simp] theorem occursIn_empty (text : String) : empty.occursIn text = true := by
  simp [occursIn, ends]

end Pattern

end PacketMeter
