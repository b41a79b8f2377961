import PacketMeter.Proofs.Stats.Counting
import PacketMeter.Stats.Aggregator

/-!
# What an aggregator keeps

A snapshot changes at most the rates, and nothing at all while no session runs.  Whether a
session is timed is decided by its beginning and its end alone.

Recording asks `native` where the counts come from and all other operations ask `feed?`.
The two never disagree.

The own counters have counted some records since they were last set to zero, whatever else
was done.
-/

namespace PacketMeter.Stats.Aggregator

variable {a : Aggregator}

/-- Recording and the other operations agree about where the counts come from. -/
def Aligned (a : Aggregator) : Prop := a.native = a.feed?.isSome

theorem aligned_make (cfg : StatsConfig) : (make cfg).Aligned := rfl

theorem recordAll_of_native (h : a.native = true) (records : List PacketRecord) :
    a.recordAll records = a := by
  induction records with
  | nil => rfl
  | cons r records ih => rw [recordAll_cons, record_of_native r h, ih]

theorem recordAll_of_managed (h : a.native = false) (records : List PacketRecord) :
    a.recordAll records = { a with counters := a.counters.recordAll records } := by
  induction records generalizing a with
  | nil => rfl
  | cons r records ih =>
      rw [recordAll_cons, record_of_managed r h]
      exact ih h

/-- Recording changes at most the own counters. -/
theorem exists_recordAll_eq (a : Aggregator) (records : List PacketRecord) :
    ∃ counters, a.recordAll records = { a with counters } := by
  by_cases h : a.native = true
  · exact ⟨a.counters, recordAll_of_native h records⟩
  · exact ⟨_, recordAll_of_managed (Bool.eq_false_iff.2 h) records⟩

theorem Aligned.recordAll (h : a.Aligned) (records : List PacketRecord) :
    (a.recordAll records).Aligned := by
  obtain ⟨counters, hc⟩ := a.exists_recordAll_eq records
  rw [hc]
  exact h

theorem started?_recordAll (a : Aggregator) (records : List PacketRecord) :
    (a.recordAll records).started? = a.started? := by
  obtain ⟨counters, hc⟩ := a.exists_recordAll_eq records
  rw [hc]

/-- The outcome of a switch and the aggregator after it. -/
inductive Switched (a : Aggregator) :
    Source → Option Nat → Except Failure Unit → Aggregator → Prop where
  | managed (offered? : Option Nat) : Switched a .managed offered? (.ok ())
      { a with counters := Counters.empty, rates := a.rates.clear, feed? := none, native := false }
  | native (feed : Nat) : Switched a .native (some feed) (.ok ())
      { a with
        counters := Counters.empty
        rates := a.rates.clear
        feed? := some feed
        native := true }
  | missing : Switched a .native none (.error noFeed) a
  | refused (feed : Nat) (f : Failure) : Switched a .native (some feed) (.error f)
      { a with feed? := none, native := false }

section Feed

variable {σ : Type} [FeedHost σ]

theorem exists_tick_eq (a : Aggregator) (now : Moment) (s : σ) :
    ∃ rates, (a.tick now s).2.1 = { a with rates } := by
  unfold tick
  split
  · exact ⟨a.rates, rfl⟩
  · exact ⟨_, rfl⟩

theorem Aligned.tick (h : a.Aligned) (now : Moment) (s : σ) : (a.tick now s).2.1.Aligned := by
  obtain ⟨rates, hr⟩ := a.exists_tick_eq now s
  rw [hr]
  exact h

theorem started?_tick (a : Aggregator) (now : Moment) (s : σ) :
    (a.tick now s).2.1.started? = a.started? := by
  obtain ⟨rates, hr⟩ := a.exists_tick_eq now s
  rw [hr]

theorem counters_tick (a : Aggregator) (now : Moment) (s : σ) :
    (a.tick now s).2.1.counters = a.counters := by
  obtain ⟨rates, hr⟩ := a.exists_tick_eq now s
  rw [hr]

/-- Outside of a session a snapshot changes nothing. -/
theorem tick_of_not_started (h : a.started? = none) (now : Moment) (s : σ) :
    (a.tick now s).2.1 = a := by
  have hs : ∀ t : Tally, a.sampled now.instant t.packets = a.rates := by
    intro t
    rw [sampled, h]
    rfl
  unfold Aggregator.tick
  split
  · rfl
  · dsimp only
    rw [hs]

/-- A snapshot of the own counters can always be made. -/
theorem exists_tick_of_managed (h : a.feed? = none) (now : Moment) (s : σ) :
    ∃ rate, (a.tick now s).1 =
      .ok (Snapshot.ofTally (a.counters.tally a.cfg) rate (a.elapsed now.instant) now.clock) := by
  rw [Aggregator.tick, tally, h]
  exact ⟨_, rfl⟩

theorem exists_clearCounts_eq (a : Aggregator) (s : σ) :
    ∃ counters, (counters = a.counters ∨ counters = Counters.empty) ∧
      (a.clearCounts s).2.1 = { a with counters } := by
  unfold clearCounts
  split
  · exact ⟨a.counters, .inl rfl, rfl⟩
  · exact ⟨_, .inr rfl, rfl⟩

/-- Clearing starts the time of a session anew. -/
theorem exists_clear_eq (a : Aggregator) (now : Duration) (s : σ) :
    ∃ counters rates frozen started?, started?.isSome = a.started?.isSome ∧
      (counters = a.counters ∨ counters = Counters.empty) ∧
      (a.clear now s).2.1 = { a with counters, rates, frozen, started? } := by
  obtain ⟨counters, hcounters, hc⟩ := a.exists_clearCounts_eq s
  unfold clear
  split
  · rename_i f a' s' he
    rw [he] at hc
    exact ⟨counters, a.rates, a.frozen, a.started?, rfl, hcounters, hc⟩
  · rename_i a' s' he
    rw [he] at hc
    obtain rfl := hc
    exact ⟨counters, _, _, _, Option.isSome_map, hcounters, rfl⟩

theorem Aligned.clear (h : a.Aligned) (now : Duration) (s : σ) :
    (a.clear now s).2.1.Aligned := by
  obtain ⟨_, _, _, _, -, -, hc⟩ := a.exists_clear_eq now s
  rw [hc]
  exact h

theorem isSome_started?_clear (a : Aggregator) (now : Duration) (s : σ) :
    (a.clear now s).2.1.started?.isSome = a.started?.isSome := by
  obtain ⟨_, _, _, _, hs, -, hc⟩ := a.exists_clear_eq now s
  rw [hc, hs]

theorem release_eq (a : Aggregator) (s : σ) :
    (a.release s).1 = { a with feed? := none, native := false } := by
  unfold release
  split
  · rfl
  · rename_i h
    rw [← h]

/-- A feed is taken as a whole or not at all. -/
theorem install_cases (a : Aggregator) (feed : Nat) (s : σ) :
    ((a.install feed s).1 = .ok () ∧
        (a.install feed s).2.1 = { a with feed? := some feed, native := true }) ∨
      ∃ f, (a.install feed s).1 = .error f ∧ (a.install feed s).2.1 = a := by
  unfold install
  split
  · exact .inr ⟨_, rfl, rfl⟩
  · split
    · exact .inr ⟨_, rfl, rfl⟩
    · exact .inl ⟨rfl, rfl⟩

theorem switched (a : Aggregator) (source : Source) (offered? : Option Nat) (s : σ) :
    Switched a source offered? (a.switch source offered? s).1
      (a.switch source offered? s).2.1 := by
  cases source with
  | managed =>
      rw [switch]
      dsimp only
      rw [release_eq]
      exact .managed offered?
  | native =>
      cases offered? with
      | none => exact .missing
      | some feed =>
          rw [switch]
          dsimp only
          obtain ⟨ho, hi⟩ | ⟨f, ho, hi⟩ := (a.release s).1.install_cases feed (a.release s).2
          · split
            · rename_i he
              rw [he] at ho
              cases ho
            · rename_i he
              rw [he] at hi
              dsimp only at hi ⊢
              rw [hi, release_eq]
              exact .native feed
          · split
            · rename_i he
              rw [he] at hi
              dsimp only at hi ⊢
              rw [hi, release_eq]
              exact .refused feed _
            · rename_i he
              rw [he] at ho
              cases ho

/-- Another source leaves the time of a session alone. -/
theorem exists_switch_eq (h : a.Aligned) (source : Source) (offered? : Option Nat) (s : σ) :
    ∃ counters rates feed? native, native = feed?.isSome ∧
      (counters = a.counters ∨ counters = Counters.empty) ∧
      (a.switch source offered? s).2.1 = { a with counters, rates, feed?, native } := by
  have hs := a.switched source offered? s
  generalize (a.switch source offered? s).1 = outcome at hs
  generalize (a.switch source offered? s).2.1 = b at hs ⊢
  cases hs with
  | managed => exact ⟨Counters.empty, a.rates.clear, none, false, rfl, .inr rfl, rfl⟩
  | native feed => exact ⟨Counters.empty, a.rates.clear, some feed, true, rfl, .inr rfl, rfl⟩
  | missing => exact ⟨a.counters, a.rates, a.feed?, a.native, h, .inl rfl, rfl⟩
  | refused => exact ⟨a.counters, a.rates, none, false, rfl, .inl rfl, rfl⟩

theorem aligned_switch (h : a.Aligned) (source : Source) (offered? : Option Nat) (s : σ) :
    (a.switch source offered? s).2.1.Aligned := by
  obtain ⟨_, _, _, _, hn, -, hs⟩ := exists_switch_eq h source offered? s
  rw [hs]
  exact hn

/-- Whether a session runs does not depend on the source. -/
theorem started?_switch (a : Aggregator) (source : Source) (offered? : Option Nat) (s : σ) :
    (a.switch source offered? s).2.1.started? = a.started? := by
  have hs := a.switched source offered? s
  generalize (a.switch source offered? s).1 = outcome at hs
  generalize (a.switch source offered? s).2.1 = b at hs ⊢
  cases hs with
  | managed | native | missing | refused => rfl

/-! ## What is kept -/

variable {P : Aggregator → Prop}

/-- A property of aggregators that everything keeps but what starts the statistics anew. -/
structure IsKept (σ : Type) [FeedHost σ] (P : Aggregator → Prop) : Prop where
  recordAll : ∀ a records, P a → P (a.recordAll records)
  tick : ∀ a now (s : σ), P a → P (a.tick now s).2.1
  begin : ∀ a now, P a → P (a.begin now)
  finish : ∀ a now, P a → P (a.finish now)

/-- A property of aggregators that everything keeps. -/
structure IsInvariant (σ : Type) [FeedHost σ] (P : Aggregator → Prop) : Prop
    extends IsKept σ P where
  clear : ∀ a now (s : σ), P a → P (a.clear now s).2.1
  switch : ∀ a source offered? (s : σ), a.Aligned → P a → P (a.switch source offered? s).2.1

theorem isKept_managed : IsKept σ fun a => a.native = false where
  recordAll a records h := by
    rw [recordAll_of_managed h]
    exact h
  tick a now s h := by
    obtain ⟨rates, hr⟩ := a.exists_tick_eq now s
    rw [hr]
    exact h
  begin _ _ h := h
  finish _ _ h := h

theorem isInvariant_cfg (cfg : StatsConfig) : IsInvariant σ fun a => a.cfg = cfg where
  recordAll a records h := by
    obtain ⟨counters, hc⟩ := a.exists_recordAll_eq records
    rw [hc]
    exact h
  tick a now s h := by
    obtain ⟨rates, hr⟩ := a.exists_tick_eq now s
    rw [hr]
    exact h
  begin _ _ h := h
  finish _ _ h := h
  clear a now s h := by
    obtain ⟨_, _, _, _, -, -, hc⟩ := a.exists_clear_eq now s
    rw [hc]
    exact h
  switch a source offered? s ha h := by
    obtain ⟨_, _, _, _, -, -, hs⟩ := exists_switch_eq ha source offered? s
    rw [hs]
    exact h

/-- The own counters have counted some records. -/
def Tallied (a : Aggregator) : Prop := ∃ records, a.counters.Counted records

theorem tallied_make (cfg : StatsConfig) : (make cfg).Tallied := ⟨[], Counters.counted_empty⟩

theorem Tallied.of_counters {a' : Aggregator} (h : a.Tallied)
    (hc : a'.counters = a.counters ∨ a'.counters = Counters.empty) : a'.Tallied := by
  rcases hc with hc | hc
  · obtain ⟨records, hr⟩ := h
    exact ⟨records, hc ▸ hr⟩
  · exact ⟨[], hc ▸ Counters.counted_empty⟩

theorem isInvariant_tallied : IsInvariant σ Tallied where
  recordAll a records h := by
    obtain ⟨earlier, he⟩ := h
    by_cases hn : a.native = true
    · rw [recordAll_of_native hn]
      exact ⟨earlier, he⟩
    · rw [recordAll_of_managed (Bool.eq_false_iff.2 hn)]
      exact ⟨_, he.recordAll records⟩
  tick a now s h := h.of_counters (.inl (a.counters_tick now s))
  begin _ _ h := h
  finish _ _ h := h
  clear a now s h := by
    obtain ⟨_, _, _, _, -, hcounters, hc⟩ := a.exists_clear_eq now s
    exact h.of_counters (by rwa [hc])
  switch a source offered? s ha h := by
    obtain ⟨_, _, _, _, -, hcounters, hs⟩ := exists_switch_eq ha source offered? s
    exact h.of_counters (by rwa [hs])

end Feed

end PacketMeter.Stats.Aggregator
