/-!
# Decimal numerals

The numerals that a number is read from: ASCII digits, after a sign where the
type allows one.  There are no blanks, no separators and no other bases, leading
zeros are allowed, and a value outside the type's range is no value at all.

A plus sign may stand before any numeral, a minus sign only where negative
values exist.
-/

namespace PacketMeter.Decimal

/-- The value of an ASCII digit. -/
def digit? (c : Char) : Option Nat :=
  if '0' ≤ c ∧ c ≤ '9' then some (c.toNat - 48) else none

/-- The value of a run of digits read after the value `acc`. -/
def digitsFrom? (acc : Nat) : List Char → Option Nat
  | [] => some acc
  | c :: rest => (digit? c).bind fun d => digitsFrom? (acc * 10 + d) rest

/-- The value of a numeral without a sign. -/
def natural? (s : List Char) : Option Nat :=
  if s.isEmpty then none else digitsFrom? 0 s

/-- The value of a numeral that is at most `greatest`. -/
def unsigned? (greatest : Nat) (s : List Char) : Option Nat :=
  let digits := match s with
    | '+' :: rest => rest
    | _ => s
  (natural? digits).filter (· ≤ greatest)

/-- The value of a numeral between `least` and `greatest`. -/
def signed? (least greatest : Int) (s : List Char) : Option Int :=
  let value? := match s with
    | '-' :: rest => (natural? rest).map fun n => -(n : Int)
    | '+' :: rest => (natural? rest).map Int.ofNat
    | _ => (natural? s).map Int.ofNat
  value?.filter fun n => decide (least ≤ n ∧ n ≤ greatest)

/-- The digits of `n`, with zeros in front up to `width`. -/
def padded (width n : Nat) : String :=
  let digits := Nat.repr n
  String.ofList (List.replicate (width - digits.length) '0') ++ digits

@[simp] theorem natural?_nil : natural? [] = none := rfl

end PacketMeter.Decimal
