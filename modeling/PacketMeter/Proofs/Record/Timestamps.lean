import PacketMeter.Record

/-!
# Timestamps on the clock

A timestamp and a time on the clock are both a number of nanoseconds after the start of 1970.
Adding a span to a time adds its nanoseconds, and fails exactly when the sum is too large for
the clock, whichever of the two words overflows.  So a timestamp is on the clock exactly when its
nanoseconds are few enough, also when its microseconds are more than a second.

A timestamp read off the clock has less than a second of microseconds, and drops what is less than
a microsecond.
-/

namespace PacketMeter

namespace ClockTime

theorem later?_eq_none_iff {seconds : Int64} {n : Nat} :
    later? seconds n = none ↔ 9223372036854775808 ≤ seconds.toInt + n := by
  unfold later?
  split
  · next h => exact ⟨fun hn => absurd hn (by simp), fun hn => absurd h (by omega)⟩
  · next h => exact ⟨fun _ => by omega, fun _ => rfl⟩

theorem toInt_of_later? {seconds later : Int64} {n : Nat} (h : later? seconds n = some later) :
    later.toInt = seconds.toInt + n := by
  have hleast := seconds.le_toInt
  unfold later? at h
  split at h
  · next hlt =>
      rw [← Option.some.inj h]
      exact Int64.toInt_ofInt_of_le (by omega) hlt
  · exact absurd h (by simp)

/-- The nanoseconds of a time tell which time it is. -/
theorem eq_of_toNanos_eq {a b : ClockTime} (h : a.toNanos = b.toNanos) : a = b := by
  obtain ⟨seconds, subNanos, hlt⟩ := a
  obtain ⟨seconds', subNanos', hlt'⟩ := b
  unfold toNanos at h
  dsimp only at h
  obtain ⟨hseconds, rfl⟩ : seconds.toInt = seconds'.toInt ∧ subNanos = subNanos' := by omega
  obtain rfl := Int64.toInt_inj.1 hseconds
  rfl

theorem toNanos_lt (t : ClockTime) : t.toNanos < 9223372036854775808 * 1000000000 := by
  have hseconds := t.seconds.toInt_lt
  have hnanos := t.subNanos_lt
  unfold toNanos
  omega

/-- Times are ordered as their nanoseconds are. -/
theorem le_iff {a b : ClockTime} : a.le b = true ↔ a.toNanos ≤ b.toNanos := by
  have ha := a.subNanos_lt
  have hb := b.subNanos_lt
  simp only [le, toNanos, Bool.or_eq_true, Bool.and_eq_true, decide_eq_true_eq, beq_iff_eq,
    Int64.lt_iff_toInt_lt, ← Int64.toInt_inj]
  omega

/-- What the clock has at a number of nanoseconds that is not too small for it. -/
inductive IsAt : Option ClockTime → Int → Prop where
  | beyond {n : Int} (h : 9223372036854775808 * 1000000000 ≤ n) : IsAt none n
  | time (t : ClockTime) : IsAt (some t) t.toNanos

theorem IsAt.eq_some_iff {o : Option ClockTime} {n : Int} (h : IsAt o n) {t : ClockTime} :
    o = some t ↔ t.toNanos = n := by
  cases h with
  | beyond hlarge =>
      have hlt := t.toNanos_lt
      exact ⟨fun ht => absurd ht (by simp), fun ht => absurd hlt (by omega)⟩
  | time t' =>
      rw [Option.some.injEq]
      exact ⟨fun ht => ht ▸ rfl, fun ht => (eq_of_toNanos_eq ht).symm⟩

theorem IsAt.eq_none_iff {o : Option ClockTime} {n : Int} (h : IsAt o n) :
    o = none ↔ 9223372036854775808 * 1000000000 ≤ n := by
  cases h with
  | beyond hlarge => exact ⟨fun _ => hlarge, fun _ => rfl⟩
  | time t =>
      have hlt := t.toNanos_lt
      exact ⟨fun ht => absurd ht (by simp), fun ht => absurd hlt (by omega)⟩

theorem isAt_of_toNanos_eq {t : ClockTime} {n : Int} (h : t.toNanos = n) : IsAt (some t) n :=
  h ▸ .time t

/-- Adding a span adds its nanoseconds. -/
theorem isAt_add? (t : ClockTime) (d : Duration) :
    IsAt (t.add? d) (t.toNanos + d.nanoseconds) := by
  have hnanos : d.nanoseconds = d.seconds * 1000000000 + d.subNanos :=
    (Nat.div_add_mod' _ _).symm
  unfold add?
  cases hseconds : later? t.seconds d.seconds with
  | none =>
      have hlarge := later?_eq_none_iff.1 hseconds
      exact .beyond (by rw [toNanos]; omega)
  | some seconds =>
      have hsum := toInt_of_later? hseconds
      dsimp only
      split
      · exact isAt_of_toNanos_eq (by rw [toNanos, toNanos]; dsimp only; omega)
      · -- The nanoseconds make a second more, which may be the one too many.
        cases hcarry : later? seconds 1 with
        | none =>
            have hlarge := later?_eq_none_iff.1 hcarry
            exact .beyond (by rw [toNanos]; omega)
        | some seconds' =>
            have hcarried := toInt_of_later? hcarry
            exact isAt_of_toNanos_eq (by rw [toNanos, toNanos]; dsimp only; omega)

end ClockTime

namespace Timestamp

/-- A timestamp stands for the time with its nanoseconds. -/
theorem isAt_clock? (t : Timestamp) : ClockTime.IsAt t.clock? t.nanos := by
  have hfirst := ClockTime.isAt_add? .start (.ofSeconds t.sec.toNat)
  rw [ClockTime.toNanos_start, Duration.nanoseconds_ofSeconds] at hfirst
  unfold clock?
  cases hseconds : ClockTime.start.add? (.ofSeconds t.sec.toNat) with
  | none =>
      have hlarge := hfirst.eq_none_iff.1 hseconds
      exact .beyond (by rw [nanos]; omega)
  | some s =>
      have hs := hfirst.eq_some_iff.1 hseconds
      have hsecond := s.isAt_add? (.ofMicros t.usec.toNat)
      rw [hs, Duration.nanoseconds_ofMicros] at hsecond
      have hsum : (t.nanos : Int) =
          0 + (t.sec.toNat * 1000000000 : Nat) + (t.usec.toNat * 1000 : Nat) := by
        rw [nanos]
        omega
      rw [Option.bind_some, hsum]
      exact hsecond

/-- The clock lacks a timestamp exactly when its seconds, with those that its microseconds make,
do not fit into a signed word. -/
theorem clock?_eq_none_iff {t : Timestamp} :
    t.clock? = none ↔ 9223372036854775807 < t.sec.toNat + t.usec.toNat / 1000000 := by
  rw [t.isAt_clock?.eq_none_iff, nanos]
  omega

theorem ofClock_of_neg {c : ClockTime} (h : c.toNanos < 0) : ofClock c = epoch := if_pos h

theorem sec_ofClock {c : ClockTime} (h : 0 ≤ c.toNanos) :
    ((ofClock c).sec.toNat : Int) = c.seconds.toInt := by
  have hnanos := c.subNanos_lt
  have hlt := c.seconds.toInt_lt
  have hseconds : c.toNanos.toNat / 1000000000 = c.seconds.toInt.toNat := by
    unfold ClockTime.toNanos at h ⊢
    omega
  have hsize : c.seconds.toInt.toNat < UInt64.size := by
    rw [UInt64.size]
    omega
  unfold ClockTime.toNanos at h
  rw [ofClock, ofNanos, if_neg (by unfold ClockTime.toNanos; omega), hseconds,
    UInt64.toNat_ofNat_of_lt' hsize]
  omega

theorem usec_ofClock {c : ClockTime} (h : 0 ≤ c.toNanos) :
    (ofClock c).usec.toNat = c.subNanos / 1000 := by
  have hnanos := c.subNanos_lt
  have hmicros : c.toNanos.toNat % 1000000000 / 1000 = c.subNanos / 1000 := by
    unfold ClockTime.toNanos at h ⊢
    omega
  have hsize : c.subNanos / 1000 < UInt32.size := by
    rw [UInt32.size]
    omega
  rw [ofClock, ofNanos, if_neg (by omega), hmicros, UInt32.toNat_ofNat_of_lt' hsize]

/-- Reading the clock drops the part of a microsecond. -/
theorem nanos_ofClock {c : ClockTime} (h : 0 ≤ c.toNanos) :
    ((ofClock c).nanos : Int) = c.toNanos / 1000 * 1000 := by
  have hnanos := c.subNanos_lt
  have hsec := sec_ofClock h
  rw [nanos, usec_ofClock h]
  unfold ClockTime.toNanos
  omega

theorem eq_iff {a b : Timestamp} :
    a = b ↔ a.sec.toNat = b.sec.toNat ∧ a.usec.toNat = b.usec.toNat := by
  rw [UInt64.toNat_inj, UInt32.toNat_inj]
  constructor
  · rintro rfl
    exact ⟨rfl, rfl⟩
  · obtain ⟨sec, usec⟩ := a
    rintro ⟨rfl, rfl⟩
    rfl

theorem le_iff {a b : Timestamp} :
    a.le b = true ↔ a.sec.toNat < b.sec.toNat ∨
      (a.sec.toNat = b.sec.toNat ∧ a.usec.toNat ≤ b.usec.toNat) := by
  simp only [le, Bool.or_eq_true, Bool.and_eq_true, decide_eq_true_eq, beq_iff_eq,
    UInt64.lt_iff_toNat_lt, ← UInt64.toNat_inj, UInt32.le_iff_toNat_le]

/-- Timestamps and times on the clock are turned into one another.

A timestamp is not on the clock exactly when its seconds, with the whole seconds of its
microseconds, exceed a signed word of 64 bits.  Otherwise the time reads as these seconds and the
microseconds left, which is the timestamp itself exactly when its microseconds are less than a
second.  A time from 1970 on is read down to the microsecond, and an earlier time as zero.
Timestamps with less than a second of microseconds are ordered as their times are. -/
theorem clock_and_timestamp_agree :
    (∀ t : Timestamp,
      (t.clock? = none ↔ 9223372036854775807 < t.sec.toNat + t.usec.toNat / 1000000) ∧
        ∀ c, t.clock? = some c →
          (ofClock c).sec.toNat = t.sec.toNat + t.usec.toNat / 1000000 ∧
            (ofClock c).usec.toNat = t.usec.toNat % 1000000 ∧
            (ofClock c = t ↔ t.usec.toNat < 1000000)) ∧
      (∀ c : ClockTime,
        (ClockTime.start.le c = true → ∃ c', (ofClock c).clock? = some c' ∧
            c'.toNanos = c.toNanos / 1000 * 1000) ∧
          (ClockTime.start.le c = false → ofClock c = ⟨0, 0⟩)) ∧
      ∀ a b : Timestamp, a.usec.toNat < 1000000 → b.usec.toNat < 1000000 →
        ∀ c c', a.clock? = some c → b.clock? = some c' → a.le b = c.le c' := by
  refine ⟨fun t => ⟨clock?_eq_none_iff, fun c hc => ?_⟩, fun c => ⟨fun hc => ?_, fun hc => ?_⟩, ?_⟩
  · have hnanos := t.isAt_clock?.eq_some_iff.1 hc
    have hpos : 0 ≤ c.toNanos := by omega
    have hlt := c.subNanos_lt
    have hsec := sec_ofClock hpos
    have husec := usec_ofClock hpos
    unfold ClockTime.toNanos nanos at hnanos
    have hsec' : (ofClock c).sec.toNat = t.sec.toNat + t.usec.toNat / 1000000 := by omega
    have husec' : (ofClock c).usec.toNat = t.usec.toNat % 1000000 := by omega
    refine ⟨hsec', husec', ?_⟩
    rw [eq_iff, hsec', husec']
    omega
  · have hpos : 0 ≤ c.toNanos := ClockTime.le_iff.1 hc
    have hround := nanos_ofClock hpos
    -- The clock has the time that is read, as it has the one that was rounded down.
    cases hclock : (ofClock c).clock? with
    | none =>
        have hlarge := clock?_eq_none_iff.1 hclock
        have hlt := c.toNanos_lt
        unfold nanos at hround
        omega
    | some c' => exact ⟨c', rfl, by rw [(isAt_clock? _).eq_some_iff.1 hclock, hround]⟩
  · refine ofClock_of_neg ?_
    rw [← Bool.not_eq_true, ClockTime.le_iff, ClockTime.toNanos_start] at hc
    omega
  · intro a b ha hb c c' hc hc'
    rw [Bool.eq_iff_iff, le_iff, ClockTime.le_iff, a.isAt_clock?.eq_some_iff.1 hc,
      b.isAt_clock?.eq_some_iff.1 hc', nanos, nanos]
    omega

/-- The last microsecond of the clock, written with a second too many of microseconds, the last
nanosecond before 1970, a time between two microseconds, and two timestamps a microsecond
apart. -/
theorem clock_and_timestamp_agree_last :
    (clock? ⟨9223372036854775806, 1999999⟩ = some ⟨9223372036854775807, 999999000, by decide⟩ ∧
        ofClock ⟨9223372036854775807, 999999000, by decide⟩ ≠ ⟨9223372036854775806, 1999999⟩) ∧
      clock? ⟨9223372036854775807, 1000000⟩ = none ∧
      ofClock ⟨-1, 999999999, by decide⟩ = ⟨0, 0⟩ ∧
      (∃ c', clock? (ofClock ⟨7, 1999, by decide⟩) = some c' ∧ c'.toNanos = 7000001000) ∧
      le ⟨8, 0⟩ ⟨7, 999999⟩ = ClockTime.le ⟨8, 0, by decide⟩ ⟨7, 999999000, by decide⟩ := by
  obtain ⟨hto, hfrom, horder⟩ := clock_and_timestamp_agree
  have hlast : clock? ⟨9223372036854775806, 1999999⟩ =
      some ⟨9223372036854775807, 999999000, by decide⟩ := by
    decide +kernel
  refine ⟨⟨hlast, fun h => ?_⟩, ?_, ?_, ?_, ?_⟩
  · exact absurd (((hto _).2 _ hlast).2.2.1 h) (by decide)
  · exact (hto _).1.2 (by decide)
  · exact (hfrom _).2 (by decide)
  · exact (hfrom ⟨7, 1999, by decide⟩).1 (by decide)
  · exact horder _ _ (by decide) (by decide) _ _ (by decide +kernel) (by decide +kernel)

end Timestamp

end PacketMeter
