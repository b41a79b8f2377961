import PacketMeter.Proofs.Stats.Sources

/-!
# Statistics that start anew

After a clear of the own counters, and after a switch to them, nothing is left of what was
counted and sampled before.  Two things do not start anew: whether a session runs, and the times
of that session.  The times come into nothing but the elapsed time of a snapshot, so that the
aggregator acts from then on as a new one for which a session has begun if one was running.
-/

namespace PacketMeter.Stats

/-- A snapshot without the time that its session lasts. -/
def Snapshot.untimed (s : Snapshot) : Snapshot := { s with elapsed := ⟨0⟩ }

/-- A snapshot before the first packet. -/
structure Snapshot.ShowsNothing (s : Snapshot) : Prop where
  packets_eq : s.packets = 0
  bytes_eq : s.bytes = 0
  rate_eq : s.rate = ⟨0, 0, 0⟩
  protocols_eq : s.protocols = []
  talkers_eq : s.talkers = []
  destinations_eq : s.destinations = []
  ports_eq : s.ports = []
  uniqueProtocols_eq : s.uniqueProtocols = 0
  uniqueIps_eq : s.uniqueIps = 0

theorem Rates.limit_sample {α : Type} [RateScalar α] (r : Rates α) (now : Duration)
    (total : UInt64) : (r.sample now total).limit = r.limit := by
  unfold Rates.sample
  dsimp only
  split
  · rfl
  · split
    · rfl
    · rfl

namespace Aggregator

variable {a b : Aggregator}

/-! ## Other times -/

/-- An aggregator with other times of its session. -/
def retimed (a : Aggregator) (started? : Option Duration) (frozen : Duration) : Aggregator :=
  { a with started?, frozen }

/-- Two aggregators that differ in the times of a session only, which runs for both or for
neither. -/
def Alike (a b : Aggregator) : Prop :=
  ∃ started? frozen, started?.isSome = a.started?.isSome ∧ b = a.retimed started? frozen

section Retimed

variable (a : Aggregator) (started? : Option Duration) (frozen : Duration)

theorem record_retimed (r : PacketRecord) :
    (a.retimed started? frozen).record r = (a.record r).retimed started? frozen := by
  unfold record retimed
  split
  · rfl
  · rfl

theorem recordAll_retimed (records : List PacketRecord) :
    (a.retimed started? frozen).recordAll records =
      (a.recordAll records).retimed started? frozen := by
  induction records generalizing a with
  | nil => rfl
  | cons r records ih => rw [recordAll_cons, recordAll_cons, record_retimed, ih]

variable {σ : Type} [FeedHost σ] (s : σ)

theorem clearCounts_retimed : (a.retimed started? frozen).clearCounts s =
    ((a.clearCounts s).1, (a.clearCounts s).2.1.retimed started? frozen,
      (a.clearCounts s).2.2) := by
  unfold clearCounts retimed
  dsimp only
  split
  · rfl
  · rfl

theorem release_retimed : (a.retimed started? frozen).release s =
    ((a.release s).1.retimed started? frozen, (a.release s).2) := by
  unfold release retimed
  dsimp only
  split
  · rfl
  · rfl

theorem install_retimed (feed : Nat) : (a.retimed started? frozen).install feed s =
    ((a.install feed s).1, (a.install feed s).2.1.retimed started? frozen,
      (a.install feed s).2.2) := by
  unfold install retimed
  split
  · rfl
  · split
    · rfl
    · rfl

theorem switch_retimed (source : Source) (offered? : Option Nat) :
    ((a.retimed started? frozen).switch source offered? s).2.1 =
      (a.switch source offered? s).2.1.retimed started? frozen := by
  unfold switch
  rw [release_retimed]
  split
  · rfl
  · rfl
  · dsimp only
    rw [install_retimed]
    generalize (a.release s).1.install _ (a.release s).2 = installed
    obtain ⟨outcome, a', s'⟩ := installed
    cases outcome with
    | error => rfl
    | ok => rfl

end Retimed

section Run

variable {σ : Type} [FeedHost σ]

theorem Alike.tick (h : a.Alike b) (now : Moment) (s : σ) :
    (b.tick now s).1.map Snapshot.untimed = (a.tick now s).1.map Snapshot.untimed ∧
      (a.tick now s).2.1.Alike (b.tick now s).2.1 := by
  obtain ⟨started?, frozen, hsome, rfl⟩ := h
  have htally : (a.retimed started? frozen).tally s = a.tally s := rfl
  have hsampled : (a.retimed started? frozen).sampled = a.sampled := by
    funext now total
    rw [sampled, sampled, retimed]
    dsimp only
    rw [hsome]
  unfold Aggregator.tick
  rw [htally, hsampled]
  obtain ⟨outcome, s'⟩ := a.tally s
  cases outcome with
  | error => exact ⟨rfl, started?, frozen, hsome, rfl⟩
  | ok t => exact ⟨rfl, started?, frozen, hsome, rfl⟩

theorem Alike.clear (h : a.Alike b) (now : Duration) (s : σ) :
    (a.clear now s).2.1.Alike (b.clear now s).2.1 := by
  obtain ⟨started?, frozen, hsome, rfl⟩ := h
  obtain ⟨counters, -, hcounts⟩ := a.exists_clearCounts_eq s
  unfold Aggregator.clear
  rw [clearCounts_retimed]
  generalize a.clearCounts s = cleared at hcounts ⊢
  obtain ⟨outcome, a', s'⟩ := cleared
  dsimp only at hcounts
  rw [hcounts]
  cases outcome with
  | error => exact ⟨started?, frozen, hsome, rfl⟩
  | ok =>
      refine ⟨started?.map fun _ => now, ⟨0⟩, ?_, rfl⟩
      rw [Option.isSome_map, Option.isSome_map, hsome]

theorem Alike.recordAll (h : a.Alike b) (records : List PacketRecord) :
    (a.recordAll records).Alike (b.recordAll records) := by
  obtain ⟨started?, frozen, hsome, rfl⟩ := h
  refine ⟨started?, frozen, ?_, a.recordAll_retimed started? frozen records⟩
  rw [hsome, started?_recordAll]

theorem Alike.switch (h : a.Alike b) (source : Source) (offered? : Option Nat) (s : σ) :
    (a.switch source offered? s).2.1.Alike (b.switch source offered? s).2.1 := by
  obtain ⟨started?, frozen, hsome, rfl⟩ := h
  refine ⟨started?, frozen, ?_, a.switch_retimed started? frozen s source offered?⟩
  rw [hsome, started?_switch]

/-- Aggregators that are alike stay so, whatever is done to both. -/
theorem Alike.act (h : a.Alike b) (x : Operation σ) : (a.act x).Alike (b.act x) := by
  obtain ⟨action, s⟩ := x
  cases action with
  | record r => exact h.recordAll [r]
  | recordAll records => exact h.recordAll records
  | begin now =>
      obtain ⟨started?, frozen, -, rfl⟩ := h
      exact ⟨some now, ⟨0⟩, rfl, rfl⟩
  | finish now =>
      obtain ⟨started?, frozen, -, rfl⟩ := h
      exact ⟨none, (a.retimed started? frozen).elapsed now, rfl, rfl⟩
  | clear now => exact h.clear now s
  | tick now => exact (h.tick now s).2
  | switch source offered? => exact h.switch source offered? s

/-- What a snapshot shows or how it fails, if an operation is one. -/
def shown? (a : Aggregator) (x : Operation σ) : Option (Except Failure Snapshot) :=
  match x.action with
  | .tick now => some ((a.tick now x.feeds).1.map Snapshot.untimed)
  | .record _ | .recordAll _ | .begin _ | .finish _ | .clear _ | .switch _ _ => none

/-- What the snapshots of a run show. -/
def shownAlong (a : Aggregator) : List (Operation σ) → List (Except Failure Snapshot)
  | [] => []
  | x :: xs => (a.shown? x).toList ++ (a.act x).shownAlong xs

theorem Alike.shown?_eq (h : a.Alike b) (x : Operation σ) : b.shown? x = a.shown? x := by
  obtain ⟨action, s⟩ := x
  cases action with
  | tick now => exact congrArg some (h.tick now s).1
  | record | recordAll | begin | finish | clear | switch => rfl

theorem Alike.shownAlong_eq (h : a.Alike b) (xs : List (Operation σ)) :
    b.shownAlong xs = a.shownAlong xs := by
  induction xs generalizing a b with
  | nil => rfl
  | cons x xs ih => rw [shownAlong, shownAlong, h.shown?_eq x, ih (h.act x)]

/-! ## New aggregators -/

/-- A new aggregator, for which a session has begun if one is to run. -/
def anew (cfg : StatsConfig) (running : Bool) (start : Duration) : Aggregator :=
  if running then (make cfg).begin start else make cfg

theorem anew_eq (cfg : StatsConfig) (running : Bool) (start : Duration) :
    anew cfg running start =
      (make cfg).retimed (if running then some start else none) ⟨0⟩ := by
  cases running with
  | false => rfl
  | true => rfl

/-- The aggregator is a new one but for the times of a session. -/
def IsNew (cfg : StatsConfig) (a : Aggregator) : Prop :=
  ∃ started? frozen, a = (make cfg).retimed started? frozen

theorem IsNew.alike_anew {cfg : StatsConfig} (h : a.IsNew cfg) (start : Duration) :
    (anew cfg a.started?.isSome start).Alike a := by
  obtain ⟨started?, frozen, rfl⟩ := h
  rw [anew_eq]
  refine ⟨started?, frozen, ?_, rfl⟩
  cases started? with
  | none => rfl
  | some => rfl

/-- What changes nothing but the times of a session. -/
def Action.IsTiming : Action → Prop
  | .begin _ | .finish _ | .clear _ => True
  | .record _ | .recordAll _ | .tick _ | .switch _ _ => False

theorem IsNew.act {cfg : StatsConfig} (h : a.IsNew cfg) (x : Operation σ)
    (hx : x.action.IsTiming) : (a.act x).IsNew cfg := by
  obtain ⟨started?, frozen, rfl⟩ := h
  obtain ⟨action, s⟩ := x
  cases action with
  | begin now => exact ⟨some now, ⟨0⟩, rfl⟩
  | finish now => exact ⟨none, ((make cfg).retimed started? frozen).elapsed now, rfl⟩
  | clear now => exact ⟨started?.map fun _ => now, ⟨0⟩, rfl⟩
  | record | recordAll | tick | switch => exact hx.elim

theorem IsNew.after {cfg : StatsConfig} (h : a.IsNew cfg) (xs : List (Operation σ))
    (hxs : ∀ x ∈ xs, x.action.IsTiming) : (a.after xs).IsNew cfg := by
  induction xs generalizing a with
  | nil => exact h
  | cons x xs ih =>
      have hx := h.act x (hxs x List.mem_cons_self)
      exact ih hx fun y hy => hxs y (List.mem_cons_of_mem x hy)

theorem IsNew.tick {cfg : StatsConfig} (h : a.IsNew cfg) (now : Moment) (s : σ) :
    ∃ snapshot, (a.tick now s).1 = .ok snapshot ∧ snapshot.ShowsNothing := by
  obtain ⟨started?, frozen, rfl⟩ := h
  refine ⟨_, rfl, rfl, rfl, ?_, ?_, ?_, ?_, ?_, rfl, rfl⟩
  · -- The first sample of a session sets the baseline, and outside of sessions none is taken.
    cases started? with
    | none => rfl
    | some => rfl
  · exact congrArg (List.map _) (rank_nil _)
  · exact congrArg (List.map _) (rank_nil _)
  · exact congrArg (List.map _) (rank_nil _)
  · exact congrArg (List.map _) (rank_nil _)

/-! ## What a clear leaves -/

theorem limit_tick (a : Aggregator) (now : Moment) (s : σ) :
    (a.tick now s).2.1.rates.limit = a.rates.limit := by
  unfold Aggregator.tick sampled
  split
  · rfl
  · dsimp only
    split
    · exact Rates.limit_sample a.rates _ _
    · rfl

/-- The room for the history of rates is that of a new aggregator. -/
theorem isInvariant_limit (limit : Nat) :
    IsInvariant σ fun a => a.rates.limit = limit where
  recordAll a records h := by
    obtain ⟨counters, hc⟩ := a.exists_recordAll_eq records
    rw [hc]
    exact h
  tick a now s h := (a.limit_tick now s).trans h
  begin _ _ h := h
  finish _ _ h := h
  clear a now s h := by
    obtain ⟨counters, -, hc⟩ := a.exists_clearCounts_eq s
    unfold Aggregator.clear
    generalize a.clearCounts s = cleared at hc ⊢
    obtain ⟨outcome, a', s'⟩ := cleared
    dsimp only at hc
    rw [hc]
    cases outcome with
    | error => exact h
    | ok => exact h
  switch a source offered? s _ h := by
    have hs := a.switched source offered? s
    generalize (a.switch source offered? s).1 = outcome at hs
    generalize (a.switch source offered? s).2.1 = b at hs ⊢
    cases hs with
    | managed | native | missing | refused => exact h

/-- An aggregator acts as a new one, whatever is done to both, and its next snapshot shows
nothing as long as only times change before. -/
structure ActsAnew (σ : Type) [FeedHost σ] (cfg : StatsConfig) (running : Bool)
    (a : Aggregator) : Prop where
  shownAlong_eq : ∀ start (ys : List (Operation σ)),
    a.shownAlong ys = (anew cfg running start).shownAlong ys
  shows_nothing : ∀ ys : List (Operation σ), (∀ y ∈ ys, y.action.IsTiming) →
    ∀ now (s : σ), ∃ snapshot, ((a.after ys).tick now s).1 = .ok snapshot ∧ snapshot.ShowsNothing

theorem IsNew.actsAnew {cfg : StatsConfig} (h : a.IsNew cfg) :
    a.ActsAnew σ cfg a.started?.isSome where
  shownAlong_eq start ys := (h.alike_anew start).shownAlong_eq ys
  shows_nothing ys hys now s := (h.after ys hys).tick now s

theorem clear_of_managed (hf : a.feed? = none) (hn : a.native = false) (now : Duration) (s : σ) :
    a.clear now s = (.ok (), { a with
      counters := Counters.empty
      rates := a.rates.clear
      feed? := none
      native := false
      started? := a.started?.map fun _ => now
      frozen := ⟨0⟩ }, s) := by
  rw [Aggregator.clear, clearCounts, hf]
  dsimp only
  rw [hn]

/-- What a clear and a switch set is all of an aggregator but its configuration and the times
of its session. -/
theorem isNew_of_restarted {cfg : StatsConfig} (hcfg : a.cfg = cfg)
    (hlimit : a.rates.limit = max cfg.history 1) (started? : Option Duration)
    (frozen : Duration) : IsNew cfg
      { a with
        counters := Counters.empty
        rates := a.rates.clear
        feed? := none
        native := false
        started?
        frozen } := by
  refine ⟨started?, frozen, ?_⟩
  rw [Rates.clear_eq, hcfg, hlimit]
  rfl

/-- Whatever was done to an aggregator, a clear while its own counters count and a switch to
them always work, and start everything anew.  Whatever is done from then on, to it and to a new
aggregator of the same configuration for which a session has begun at any time if one was
running, the snapshots of the two fail alike or show the same but for the time that the session
lasts.  The first of them shows no packets, no bytes, no keys and no rates. -/
theorem restarted_acts_anew (cfg : StatsConfig) (xs : List (Operation σ)) (now : Duration)
    (feeds : σ) :
    let a := (make cfg).after xs
    (a.source = .managed → (a.clear now feeds).1 = .ok () ∧
        (a.clear now feeds).2.1.ActsAnew σ cfg a.started?.isSome) ∧
      ∀ offered?, (a.switch .managed offered? feeds).1 = .ok () ∧
        (a.switch .managed offered? feeds).2.1.ActsAnew σ cfg a.started?.isSome := by
  intro a
  have h : a.Consistent := (consistent_make cfg).after xs
  have hcfg : a.cfg = cfg := (isInvariant_cfg cfg).after (consistent_make cfg) rfl xs
  have hlimit : a.rates.limit = max cfg.history 1 :=
    (isInvariant_limit (max cfg.history 1)).after (consistent_make cfg) rfl xs
  refine ⟨fun hs => ?_, fun offered? => ?_⟩
  · rw [source_eq_managed_iff] at hs
    have hnew := isNew_of_restarted hcfg hlimit (a.started?.map fun _ => now) ⟨0⟩
    rw [clear_of_managed (h.aligned.feed?_eq_none hs) hs,
      ← Option.isSome_map (f := fun _ => now)]
    exact ⟨rfl, hnew.actsAnew⟩
  · have hnew := isNew_of_restarted hcfg hlimit a.started? a.frozen
    rw [switch]
    dsimp only
    rw [release_eq]
    exact ⟨rfl, hnew.actsAnew⟩

end Run

/-- A session has begun, and records were counted and shown.  After a clear, and also after a
feed has counted for a while and a switch back, later records are shown as by a new aggregator
with a session. -/
theorem restarted_acts_anew_session :
    let feeds : Asked := ⟨false, []⟩
    let record : Operation Asked := ⟨.record (Counters.ofProtocol "TCP"), feeds⟩
    let tick (n : Nat) : Operation Asked := ⟨.tick ⟨⟨n⟩, default⟩, feeds⟩
    let used : List (Operation Asked) := [⟨.begin ⟨0⟩, feeds⟩, record, tick 1, record, tick 2]
    let native : List (Operation Asked) := used ++ [⟨.switch .native (some 0), feeds⟩, tick 3]
    let later : List (Operation Asked) := [record, tick 4, record, record, tick 5]
    (((make .default).after used).clear ⟨3⟩ feeds).2.1.shownAlong later =
        (anew .default true ⟨0⟩).shownAlong later ∧
      (((make .default).after native).switch .managed none feeds).2.1.shownAlong later =
        (anew .default true ⟨0⟩).shownAlong later := by
  intro feeds record tick used native later
  refine ⟨?_, ?_⟩
  · exact ((restarted_acts_anew .default used ⟨3⟩ feeds).1 rfl).2.shownAlong_eq ⟨0⟩ later
  · exact ((restarted_acts_anew .default native ⟨3⟩ feeds).2 none).2.shownAlong_eq ⟨0⟩ later

end Aggregator

end PacketMeter.Stats
