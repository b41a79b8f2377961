import PacketMeter.Number.Binary64

/-!
# One decimal place

The text of a number with exactly one decimal place.  The exact value is rounded,
a half to the even neighbour, and a minus sign stands also before a negative
value that is rounded to zero.
-/

namespace PacketMeter.Number

def tenths (mantissa : Nat) (exponent : Int) : Nat :=
  if 0 ≤ exponent then (mantissa <<< exponent.toNat) * 10
  else roundHalfEven (mantissa * 10) (1 <<< (-exponent).toNat)

def signText (negative : Bool) : String := if negative then "-" else ""

/-- The text of a number with one decimal place. -/
def onePlace (x : Float) : String :=
  match Binary64.ofFloat x with
  | .nan => "NaN"
  | .infinite negative => signText negative ++ "inf"
  | .finite negative mantissa exponent =>
    let n := tenths mantissa exponent
    signText negative ++ Nat.repr (n / 10) ++ "." ++ Nat.repr (n % 10)

end PacketMeter.Number
