/-!
# Binary numbers of 64 bits

What the bits of a floating-point number stand for: a sign and a whole multiple
of a power of two, an infinity, or no number.  The decimal texts of such numbers
are defined from here in exact arithmetic.
-/

namespace PacketMeter.Number

/-- What 64 bits stand for. -/
inductive Binary64 where
  | nan
  | infinite (negative : Bool)
  | finite (negative : Bool) (mantissa : Nat) (exponent : Int)
  deriving Repr, DecidableEq, Inhabited

namespace Binary64

/-- The least exponent, that of the numbers next to zero. -/
def leastExponent : Int := -1074

/-- The number that bits stand for. -/
def ofBits (bits : UInt64) : Binary64 :=
  let n := bits.toNat
  let negative := n >>> 63 == 1
  let power := (n >>> 52) % 2048
  let fraction := n % (1 <<< 52)
  if power = 2047 then
    if fraction = 0 then infinite negative else nan
  else if power = 0 then finite negative fraction leastExponent
  else finite negative ((1 <<< 52) + fraction) (leastExponent + (power - 1 : Nat))

/-- The number that a floating-point number is. -/
def ofFloat (x : Float) : Binary64 := ofBits x.toBits

end Binary64

/-- A quotient of natural numbers, rounded to the nearest whole number, a half to
the even neighbour. -/
def roundHalfEven (num den : Nat) : Nat :=
  let q := num / den
  let r := num % den
  if 2 * r < den then q
  else if den < 2 * r then q + 1
  else if q % 2 = 0 then q else q + 1

/-- Rounding moves a quotient by at most a half. -/
theorem roundHalfEven_near (num den : Nat) (h : 0 < den) :
    2 * num ≤ 2 * (roundHalfEven num den * den) + den ∧
      2 * (roundHalfEven num den * den) ≤ 2 * num + den := by
  have hd : den * (num / den) + num % den = num := Nat.div_add_mod num den
  have hr : num % den < den := Nat.mod_lt num h
  have hc : num / den * den = den * (num / den) := Nat.mul_comm _ _
  have hs : (num / den + 1) * den = den * (num / den) + den := by
    rw [Nat.add_mul, Nat.one_mul, hc]
  unfold roundHalfEven
  simp only []
  split
  · omega
  · split
    · omega
    · split <;> omega

end PacketMeter.Number
