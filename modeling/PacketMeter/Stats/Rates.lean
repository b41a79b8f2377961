import PacketMeter.Duration

/-!
# Packet rates

A rate is the number of new packets between two samples over the time between
them.  The first sample after a restart only sets the baseline, and so does a
sample at a moment that is not after the one before.  A total that has fallen
counts as no new packets.

The last rates are kept as a history of bounded length, of which the average is
taken, the oldest first.  The history is a ring: what is pushed into a full ring
takes the place of the oldest, and a ring is gone through from the oldest to the
newest.  The greatest rate is kept beside it, also when it has left the history.

The arithmetic is a parameter, so that the same rules can be followed with
floating-point numbers and with exact ones.
-/

namespace PacketMeter.Stats

/-- The arithmetic that rates are computed with. -/
class RateScalar (α : Type) where
  zero : α
  ofWord : UInt64 → α
  add : α → α → α
  div : α → α → α
  larger : α → α → α

instance : RateScalar Float where
  zero := 0
  ofWord := UInt64.toFloat
  add := Float.add
  div := Float.div
  larger a b := if a < b then b else a

/-- The rates that one snapshot shows. -/
structure Rate (α : Type) where
  current : α
  average : α
  greatest : α
  deriving Repr, DecidableEq, Inhabited

/-- The samples taken so far.  A moment is the time since a fixed start. -/
structure Rates (α : Type) where
  limit : Nat
  history : List α
  last? : Option (Duration × UInt64)
  current : α
  greatest : α
  deriving Repr, Inhabited

namespace Rates

variable {α : Type} [RateScalar α]

/-- No samples, and room for a history of `length` rates, though at least one. -/
def make (length : Nat) : Rates α := ⟨max length 1, [], none, RateScalar.zero, RateScalar.zero⟩

/-- A span of time in seconds. -/
def seconds (d : Duration) : α :=
  RateScalar.add (RateScalar.ofWord (UInt64.ofNat d.seconds))
    (RateScalar.div (RateScalar.ofWord (UInt64.ofNat d.subNanos)) (RateScalar.ofWord 1000000000))

/-- The sum of the rates in order. -/
def sum (history : List α) : α := history.foldl RateScalar.add RateScalar.zero

/-- The average of a history, which is zero for the empty one. -/
def average (history : List α) : α :=
  if history.isEmpty then RateScalar.zero
  else RateScalar.div (sum history) (RateScalar.ofWord (UInt64.ofNat history.length))

def rate (r : Rates α) : Rate α := ⟨r.current, average r.history, r.greatest⟩

/-- The number of new packets between two totals. -/
def increase (before after : UInt64) : UInt64 := if before ≤ after then after - before else 0

/-- The history after a new rate, without the oldest when there is no room. -/
def remember (limit : Nat) (history : List α) (x : α) : List α :=
  (if limit ≤ history.length then history.drop 1 else history) ++ [x]

/-- The samples after a rate over a positive span of time. -/
def push (r : Rates α) (x : α) : Rates α :=
  { r with
    current := x
    greatest := RateScalar.larger r.greatest x
    history := remember r.limit r.history x }

/-- Takes a sample of the packet total at a moment. -/
def sample (r : Rates α) (now : Duration) (total : UInt64) : Rates α :=
  let r' := match r.last? with
    | none => r
    | some (before, count) =>
      if before.nanoseconds < now.nanoseconds then
        r.push (RateScalar.div (RateScalar.ofWord (increase count total))
          (seconds (now.since before)))
      else r
  { r' with last? := some (now, total) }

/-- Forgets the baseline, so that the next sample starts anew. -/
def restart (r : Rates α) : Rates α := { r with last? := none, current := RateScalar.zero }

def clear (r : Rates α) : Rates α :=
  { r with history := [], last? := none, current := RateScalar.zero,
           greatest := RateScalar.zero }

/-- After a clear nothing is left of the samples before. -/
theorem clear_eq (r : Rates α) : r.clear = ⟨r.limit, [], none, RateScalar.zero, RateScalar.zero⟩ :=
  rfl

@[simp] theorem last?_sample (r : Rates α) (now : Duration) (total : UInt64) :
    (r.sample now total).last? = some (now, total) := rfl

end Rates

end PacketMeter.Stats
