import PacketMeter.Json
import PacketMeter.Number.Shortest

/-!
# Floating-point numbers in JSON

A finite number is written with the fewest digits that read back.  The digits
stand around a point, with at least one digit on either side, as long as the
leading digit has an exponent from `-5` to `15`.  Beyond, they are followed by an
exponent with its sign.  Infinities and what is no number are written as `null`.
-/

namespace PacketMeter.Json

/-- The exponents of the leading digit for which a number is written without an
exponent. -/
def isPositional (lead : Int) : Bool := decide (-5 ≤ lead) && decide (lead ≤ 15)

/-- Digits with a point after the first `before` of them, zeros filling up either
side. -/
def withPoint (digits : String) (before : Int) : String :=
  if before ≤ 0 then
    "0." ++ String.ofList (List.replicate (-before).toNat '0') ++ digits
  else
    let n := before.toNat
    let cs := digits.toList
    if cs.length ≤ n then
      digits ++ String.ofList (List.replicate (n - cs.length) '0') ++ ".0"
    else String.ofList (cs.take n) ++ "." ++ String.ofList (cs.drop n)

/-- Digits with a point after the first, unless it is the only one, and an
exponent. -/
def withExponent (digits : String) (lead : Int) : String :=
  let tail := digits.toList.drop 1
  let fraction := if tail.isEmpty then "" else "." ++ String.ofList tail
  let sign := if lead < 0 then "-" else "+"
  String.ofList (digits.toList.take 1) ++ fraction ++ "e" ++ sign ++ toString lead.natAbs

def decimalLiteral (d : Number.Decimal) : String :=
  let digits := Nat.repr d.digits
  let lead := d.exponent + (digits.length : Int) - 1
  if isPositional lead then withPoint digits (lead + 1) else withExponent digits lead

/-- The value of a floating-point number. -/
def ofFloat (x : Float) : Json :=
  match Number.Binary64.ofFloat x with
  | .nan | .infinite _ => .null
  | .finite negative mantissa exponent =>
    let sign := if negative then "-" else ""
    if mantissa = 0 then .number (sign ++ "0.0")
    else .number (sign ++ decimalLiteral (Number.shortest mantissa exponent))

end PacketMeter.Json
