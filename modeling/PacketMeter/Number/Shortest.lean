import PacketMeter.Number.Binary64

/-!
# The shortest decimal that reads back

A positive number `m * 2 ^ e` is what every real number in an interval around it
is rounded to.  The shortest decimal that reads back is the point of the coarsest
decimal grid that has a point in that interval; of two such points it is the
nearer one, and of two equally near ones the even one.

The interval reaches half way to the neighbouring numbers.  Below a power of two
the neighbour is half as far away as above it.  The ends belong to the interval
when the mantissa is even.
-/

namespace PacketMeter.Number

/-- The number `digits * 10 ^ exponent`. -/
structure Decimal where
  digits : Nat
  exponent : Int
  deriving Repr, DecidableEq, Inhabited

/-- The numerator and the denominator of `n * base ^ e`. -/
def scaled (n base : Nat) (e : Int) : Nat × Nat :=
  if 0 ≤ e then (n * Nat.pow base e.toNat, 1) else (n, Nat.pow base (-e).toNat)

/-- The order of `a * 10 ^ k` and `b * 2 ^ e`. -/
def compareScaled (a : Nat) (k : Int) (b : Nat) (e : Int) : Ordering :=
  let (an, ad) := scaled a 10 k
  let (bn, bd) := scaled b 2 e
  compare (an * bd) (bn * ad)

/-- The exponent of the leading decimal digit of `m * 2 ^ e`, for a positive `m`. -/
def leadingExponent (m : Nat) (e : Int) : Int :=
  let (num, den) := scaled m 2 e
  if den ≤ num then ((Nat.repr (num / den)).length : Int) - 1
  else
    let shift := (List.range 330).find? fun j => den ≤ num * Nat.pow 10 j
    Int.negOfNat (shift.getD 0)

/-- Whether `digits * 10 ^ k` is rounded to `m * 2 ^ e`. -/
def readsBack (m : Nat) (e : Int) (digits : Nat) (k : Int) : Bool :=
  let below := if m = 1 <<< 52 ∧ e ≠ Binary64.leastExponent then 1 else 2
  let low := compareScaled digits k (4 * m - below) (e - 2)
  let high := compareScaled digits k (4 * m + 2) (e - 2)
  if m % 2 = 0 then low != .lt && high != .gt else low == .gt && high == .lt

/-- The grid point next to `m * 2 ^ e` from below, in units of `10 ^ k`. -/
def floorOn (m : Nat) (e k : Int) : Nat :=
  let (num, den) := scaled m 2 e
  if 0 ≤ k then num / (den * Nat.pow 10 k.toNat) else num * Nat.pow 10 (-k).toNat / den

/-- Whether the grid point above is the better of two neighbours: it is nearer, or
as near and even. -/
def upperIsBetter (m : Nat) (e : Int) (lower : Nat) (k : Int) : Bool :=
  match compareScaled (2 * lower + 1) k (2 * m) e with
  | .lt => true
  | .gt => false
  | .eq => lower % 2 == 1

/-- The neighbour on the grid of `10 ^ k` that reads back, the better one of two. -/
def onGrid? (m : Nat) (e k : Int) : Option Decimal :=
  let lower := floorOn m e k
  match readsBack m e lower k, readsBack m e (lower + 1) k with
  | true, true => some ⟨if upperIsBetter m e lower k then lower + 1 else lower, k⟩
  | true, false => some ⟨lower, k⟩
  | false, true => some ⟨lower + 1, k⟩
  | false, false => none

/-- A decimal without zeros at its end, after at most `fuel` of them. -/
def Decimal.withoutZeros : Nat → Decimal → Decimal
  | 0, d => d
  | fuel + 1, d =>
    if d.digits ≠ 0 ∧ d.digits % 10 = 0 then withoutZeros fuel ⟨d.digits / 10, d.exponent + 1⟩
    else d

/-- The shortest decimal that reads back as the positive number `m * 2 ^ e`. -/
def shortest (m : Nat) (e : Int) : Decimal :=
  let lead := leadingExponent m e
  let hit := (List.range 17).findSome? fun (n : Nat) => onGrid? m e (lead - n)
  (hit.getD ⟨m, 0⟩).withoutZeros 20

end PacketMeter.Number
