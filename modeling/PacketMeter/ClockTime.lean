import PacketMeter.Duration

/-!
# Times on the clock

The clock of a system counts whole seconds from the start of 1970, forwards and
backwards, in a signed word of 64 bits, and the nanoseconds beyond them.  There is no
time whose seconds do not fit into the word, so that a time some span later need not
exist.
-/

namespace PacketMeter

/-- A time on the clock of a system. -/
structure ClockTime where
  seconds : Int64
  subNanos : Nat
  subNanos_lt : subNanos < 1000000000
  deriving Repr, DecidableEq

namespace ClockTime

/-- The start of 1970. -/
def start : ClockTime := ⟨0, 0, by decide⟩

instance : Inhabited ClockTime := ⟨start⟩

/-- The nanoseconds from the start of 1970 to a time, negative before it. -/
def toNanos (t : ClockTime) : Int := t.seconds.toInt * 1000000000 + t.subNanos

/-- The seconds that are `n` more, when the word holds them, which ends below 2^63. -/
def later? (seconds : Int64) (n : Nat) : Option Int64 :=
  if seconds.toInt + n < 9223372036854775808 then some (Int64.ofInt (seconds.toInt + n)) else none

/-- The time some span later.  The seconds of the span may leave the word, and so may
the carry of the nanoseconds. -/
def add? (t : ClockTime) (d : Duration) : Option ClockTime :=
  match later? t.seconds d.seconds with
  | none => none
  | some seconds =>
    if h : t.subNanos + d.subNanos < 1000000000 then
      some ⟨seconds, t.subNanos + d.subNanos, h⟩
    else match later? seconds 1 with
      | none => none
      | some seconds => some ⟨seconds, t.subNanos + d.subNanos - 1000000000, by
          have ht := t.subNanos_lt
          have hd := d.subNanos_lt
          omega⟩

/-- Earlier seconds come first, and among equal seconds earlier nanoseconds. -/
def le (a b : ClockTime) : Bool :=
  a.seconds < b.seconds || (a.seconds == b.seconds && a.subNanos ≤ b.subNanos)

@[simp] theorem toNanos_start : start.toNanos = 0 := rfl

end ClockTime

end PacketMeter
