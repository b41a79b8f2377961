/-!
# Durations

A span of time in whole nanoseconds.  Its text is the shortest exact one: the
largest unit of which the span holds at least one, as a decimal number without
trailing zeros, and `0ns` for the empty span.
-/

namespace PacketMeter

/-- A span of time. -/
structure Duration where
  nanoseconds : Nat
  deriving Repr, DecidableEq, Inhabited

namespace Duration

def ofSeconds (n : Nat) : Duration := ⟨n * 1000000000⟩

/-- The span of `n` thousandths of a second. -/
def ofMillis (n : Nat) : Duration := ⟨n * 1000000⟩

/-- The span of `n` millionths of a second. -/
def ofMicros (n : Nat) : Duration := ⟨n * 1000⟩

/-- The span of `secs` seconds and `nanos` nanoseconds. -/
def ofParts (secs nanos : Nat) : Duration := ⟨secs * 1000000000 + nanos⟩

/-- The whole seconds of a span. -/
def seconds (d : Duration) : Nat := d.nanoseconds / 1000000000

/-- The nanoseconds of a span beyond its whole seconds. -/
def subNanos (d : Duration) : Nat := d.nanoseconds % 1000000000

/-- The whole milliseconds of a span. -/
def millis (d : Duration) : Nat := d.nanoseconds / 1000000

/-- The span from one moment to a later one, both given as the time since a fixed
start.  It is empty when the other is not later. -/
def since (later earlier : Duration) : Duration := ⟨later.nanoseconds - earlier.nanoseconds⟩

/-- The digits of a fraction `n / 10 ^ places`, without trailing zeros and with a
point in front, and nothing for zero. -/
def fraction (places n : Nat) : String :=
  if n = 0 then ""
  else
    let digits := Nat.repr n
    let zeros := List.replicate (places - digits.length) '0'
    let all := zeros ++ digits.toList
    "." ++ String.ofList (all.reverse.dropWhile (· == '0')).reverse

def text (d : Duration) : String :=
  let n := d.nanoseconds
  let inUnit (places : Nat) (unit : String) :=
    Nat.repr (n / Nat.pow 10 places) ++ fraction places (n % Nat.pow 10 places) ++ unit
  if 1000000000 ≤ n then inUnit 9 "s"
  else if 1000000 ≤ n then inUnit 6 "ms"
  else if 1000 ≤ n then inUnit 3 "µs"
  else inUnit 0 "ns"

@[simp] theorem nanoseconds_ofSeconds (n : Nat) :
    (ofSeconds n).nanoseconds = n * 1000000000 := rfl

@[simp] theorem nanoseconds_ofMicros (n : Nat) : (ofMicros n).nanoseconds = n * 1000 := rfl

theorem subNanos_lt (d : Duration) : d.subNanos < 1000000000 := Nat.mod_lt _ (by decide)

@[simp] theorem seconds_ofParts (secs nanos : Nat) (h : nanos < 1000000000) :
    (ofParts secs nanos).seconds = secs := by
  simp only [seconds, ofParts]; omega

@[simp] theorem subNanos_ofParts (secs nanos : Nat) (h : nanos < 1000000000) :
    (ofParts secs nanos).subNanos = nanos := by
  simp only [subNanos, ofParts]; omega

end Duration

end PacketMeter
