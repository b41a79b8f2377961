import PacketMeter.Stats.Snapshot

/-!
# The clock of a rehearsal

A rehearsal has its own time.  Its moments are numbered, and no two pairs of the
first ten thousand are equally far apart, so that equal spans of time never come
about by chance: the squares modulo a prime, added to equal steps, have distinct
differences.
-/

namespace PacketMeter.Rehearsal

/-- The prime that the squares are taken by. -/
def clockPrime : Nat := 10007

/-- The microseconds until a numbered moment. -/
def microsecondsAt (n : Nat) : Nat := 2 * clockPrime * n + n * n % clockPrime

/-- A numbered moment. -/
def moment (n : Nat) : Stats.Moment :=
  ⟨⟨1000 * microsecondsAt n⟩, Timestamp.ofNanos (1000 * microsecondsAt n)⟩

/-- Later numbers are later moments. -/
theorem microsecondsAt_lt {m n : Nat} (h : m < n) : microsecondsAt m < microsecondsAt n := by
  have hm : m * m % clockPrime < clockPrime := Nat.mod_lt _ (by decide)
  have hs : 2 * clockPrime * (m + 1) ≤ 2 * clockPrime * n := Nat.mul_le_mul_left _ h
  simp only [microsecondsAt, Nat.mul_add] at *
  omega

end PacketMeter.Rehearsal
