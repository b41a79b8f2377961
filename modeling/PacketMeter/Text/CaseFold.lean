import PacketMeter.Text.CaseTable

/-!
# Comparing without regard to case

Two characters are variants of each other when they have the same folded form.
The folded form is the lower-case form of one character, except for a few
characters that are in lower case already and fold to another one.
-/

namespace PacketMeter.Text

/-- The characters in lower case that fold to another character. -/
def foldExceptions : List (Nat × Nat) := [
  (0xB5, 0x3BC), (0x17F, 0x73), (0x345, 0x3B9), (0x3C2, 0x3C3), (0x3D0, 0x3B2),
  (0x3D1, 0x3B8), (0x3D5, 0x3C6), (0x3D6, 0x3C0), (0x3F0, 0x3BA), (0x3F1, 0x3C1),
  (0x3F5, 0x3B5), (0x1C80, 0x432), (0x1C81, 0x434), (0x1C82, 0x43E), (0x1C83, 0x441),
  (0x1C84, 0x442), (0x1C85, 0x442), (0x1C86, 0x44A), (0x1C87, 0x463), (0x1C88, 0xA64B),
  (0x1E9B, 0x1E61), (0x1FBE, 0x3B9), (0x1FD3, 0x390), (0x1FE3, 0x3B0), (0xFB05, 0xFB06)]

/-- The folded form of a code point. -/
def foldCode (n : Nat) : Nat :=
  match foldExceptions.lookup n with
  | some m => m
  | none => (CaseRun.image? lowercaseRanges n).getD n

/-- The code point of a run whose image is `n`. -/
def CaseRun.preimage? (n : Nat) (r : CaseRun) : Option Nat :=
  if r.target ≤ n ∧ n ≤ r.target + (r.last - r.first) ∧ (n - r.target) % r.stride = 0 then
    some (r.first + (n - r.target))
  else none

/-- The code points with the same folded form. -/
def caseVariants (n : Nat) : List Nat :=
  let folded := foldCode n
  folded :: lowercaseRanges.filterMap (CaseRun.preimage? folded) ++
    (foldExceptions.filter fun e => e.2 == folded).map Prod.fst

/-- The two cases of an ASCII letter, and any other code point alone. -/
def asciiVariants (n : Nat) : List Nat :=
  if 0x41 ≤ n ∧ n ≤ 0x5A then [n, n + 32]
  else if 0x61 ≤ n ∧ n ≤ 0x7A then [n, n - 32]
  else [n]

end PacketMeter.Text
