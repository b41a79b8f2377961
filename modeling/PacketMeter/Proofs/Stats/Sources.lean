import PacketMeter.Proofs.Stats.Aggregation

/-!
# Where counts come from

The operations on an aggregator are put together to runs.  Every operation of a run meets the
native feeds in some state, so they may fail at any call, and what they say may change in
between.

Along a run the own counters have met some calls, and they count the records since the last
clearing among those.  While a native feed counts they are empty and meet nothing.
-/

namespace PacketMeter.Stats.Aggregator

variable {a : Aggregator}

/-! ## Agreement -/

/-- Recording and the other operations agree about where the counts come from, and the own
counters are empty while a feed counts. -/
structure Consistent (a : Aggregator) : Prop where
  aligned : a.Aligned
  counters_eq : a.native = true → a.counters = Counters.empty

theorem consistent_make (cfg : StatsConfig) : (make cfg).Consistent := ⟨aligned_make cfg, nofun⟩

theorem source_eq_native_iff (a : Aggregator) : a.source = .native ↔ a.native = true := by
  rw [source]
  cases a.native <;> decide

theorem source_eq_managed_iff (a : Aggregator) : a.source = .managed ↔ a.native = false := by
  rw [source]
  cases a.native <;> decide

theorem Aligned.feed?_eq_none (h : a.Aligned) (hn : a.native = false) : a.feed? = none := by
  rw [← Option.not_isSome_iff_eq_none, ← h, hn]
  exact Bool.false_ne_true

/-- The records that are counted among some that are brought. -/
theorem counters_recordAll (a : Aggregator) (records : List PacketRecord) :
    (a.recordAll records).counters =
      a.counters.after (if a.native then [] else records.map .record) := by
  cases hn : a.native with
  | true =>
      rw [recordAll_of_native hn]
      rfl
  | false =>
      rw [recordAll_of_managed hn, if_neg Bool.false_ne_true, Counters.after, List.foldl_map]
      rfl

/-! ## What an operation does -/

/-- What an operation that brings some records does: it starts the statistics anew, or it counts
the records, or it only lets go of the feed. -/
inductive Acted (a b : Aggregator) (records : List PacketRecord) : Bool → Prop where
  | restarted (aligned : b.Aligned) (counters_eq : b.counters = Counters.empty) :
      Acted a b records true
  | counted (native_eq : b.native = a.native) (feed?_eq : b.feed? = a.feed?)
      (counters_eq : b.counters =
        a.counters.after (if a.native then [] else records.map .record)) :
      Acted a b records false
  | released (records_eq : records = []) (native_eq : b.native = false)
      (feed?_eq : b.feed? = none) (counters_eq : b.counters = a.counters) :
      Acted a b records false

/-- Nothing is brought. -/
theorem Acted.of_eq {b : Aggregator} (hn : b.native = a.native) (hf : b.feed? = a.feed?)
    (hc : b.counters = a.counters) : Acted a b [] false := by
  refine .counted hn hf ?_
  rw [hc, List.map_nil, ite_self]
  rfl

theorem acted_recordAll (a : Aggregator) (records : List PacketRecord) :
    Acted a (a.recordAll records) records false := by
  obtain ⟨counters, hc⟩ := a.exists_recordAll_eq records
  refine .counted ?_ ?_ (a.counters_recordAll records)
  · rw [hc]
  · rw [hc]

theorem sinceClear_append_map (calls : List Counters.Call) (records : List PacketRecord) :
    Counters.sinceClear (calls ++ records.map .record) =
      Counters.sinceClear calls ++ records := by
  induction records using List.reverseRecOn with
  | nil => rw [List.map_nil, List.append_nil, List.append_nil]
  | append_singleton records r ih =>
      rw [List.map_append, ← List.append_assoc, List.map_singleton, Counters.sinceClear_concat, ih]
      exact List.append_assoc _ _ _

/-! ## Runs -/

/-- What is done to an aggregator. -/
inductive Action where
  | record (r : PacketRecord)
  | recordAll (records : List PacketRecord)
  | begin (now : Duration)
  | finish (now : Duration)
  | clear (now : Duration)
  | tick (now : Moment)
  | switch (source : Source) (offered? : Option Nat)
  deriving Inhabited

/-- The records that an action brings. -/
def Action.records : Action → List PacketRecord
  | .record r => [r]
  | .recordAll records => records
  | .begin _ | .finish _ | .clear _ | .tick _ | .switch _ _ => []

/-- An action, and the state in which the native feeds are then. -/
structure Operation (σ : Type) where
  action : Action
  feeds : σ

section Run

variable {σ : Type} [FeedHost σ]

/-- The aggregator after an operation, whether it works or fails. -/
def act (a : Aggregator) (x : Operation σ) : Aggregator :=
  match x.action with
  | .record r => a.record r
  | .recordAll records => a.recordAll records
  | .begin now => a.begin now
  | .finish now => a.finish now
  | .clear now => (a.clear now x.feeds).2.1
  | .tick now => (a.tick now x.feeds).2.1
  | .switch source offered? => (a.switch source offered? x.feeds).2.1

/-- The aggregator after several operations. -/
def after (a : Aggregator) (xs : List (Operation σ)) : Aggregator := xs.foldl act a

/-- Whether an operation is a clear, or a switch that works. -/
def restarts (a : Aggregator) (x : Operation σ) : Bool :=
  match x.action with
  | .clear _ => true
  | .switch source offered? => (a.switch source offered? x.feeds).1.isOk
  | .record _ | .recordAll _ | .begin _ | .finish _ | .tick _ => false

/-- No operation of a run is a clear or a switch that works. -/
def Continues (a : Aggregator) : List (Operation σ) → Prop
  | [] => True
  | x :: xs => a.restarts x = false ∧ (a.act x).Continues xs

/-- What an operation means for the own counters. -/
def calls (a : Aggregator) (x : Operation σ) : List Counters.Call :=
  if a.restarts x then [.clear]
  else if a.native then []
  else x.action.records.map .record

/-- What the own counters meet along a run. -/
def callsAlong (a : Aggregator) : List (Operation σ) → List Counters.Call
  | [] => []
  | x :: xs => a.calls x ++ (a.act x).callsAlong xs

@[simp] theorem after_nil (a : Aggregator) : a.after ([] : List (Operation σ)) = a := rfl

@[simp] theorem after_cons (a : Aggregator) (x : Operation σ) (xs : List (Operation σ)) :
    a.after (x :: xs) = (a.act x).after xs := rfl

theorem callsAlong_append (a : Aggregator) (xs ys : List (Operation σ)) :
    a.callsAlong (xs ++ ys) = a.callsAlong xs ++ (a.after xs).callsAlong ys := by
  induction xs generalizing a with
  | nil => rfl
  | cons x xs ih =>
      rw [List.cons_append, callsAlong, callsAlong, ih, List.append_assoc, after_cons]

/-- A clear leaves the own counters empty, also when it fails. -/
theorem counters_clear (h : a.Consistent) (now : Duration) (s : σ) :
    (a.clear now s).2.1.counters = Counters.empty := by
  cases hn : a.native with
  | true =>
      -- The feed is cleared or not, and the own counters have been empty before.
      obtain ⟨_, _, _, _, -, hcounters, hc⟩ := a.exists_clear_eq now s
      rw [hc]
      exact hcounters.elim (fun he => he.trans (h.counters_eq hn)) id
  | false =>
      rw [Aggregator.clear, clearCounts, h.aligned.feed?_eq_none hn]

theorem acted (h : a.Consistent) (x : Operation σ) :
    Acted a (a.act x) x.action.records (a.restarts x) := by
  obtain ⟨action, s⟩ := x
  cases action with
  | record r => exact a.acted_recordAll [r]
  | recordAll records => exact a.acted_recordAll records
  | begin | finish => exact .of_eq rfl rfl rfl
  | clear now => exact .restarted (h.aligned.clear now s) (counters_clear h now s)
  | tick now =>
      obtain ⟨rates, hr⟩ := a.exists_tick_eq now s
      rw [act]
      dsimp only
      rw [hr]
      exact .of_eq rfl rfl rfl
  | switch source offered? =>
      have hs := a.switched source offered? s
      rw [act, restarts]
      dsimp only
      generalize (a.switch source offered? s).1 = outcome at hs ⊢
      generalize (a.switch source offered? s).2.1 = b at hs ⊢
      cases hs with
      | managed => exact .restarted rfl rfl
      | native => exact .restarted rfl rfl
      | missing => exact .of_eq rfl rfl rfl
      | refused => exact .released rfl rfl rfl rfl

theorem Consistent.act (h : a.Consistent) (x : Operation σ) : (a.act x).Consistent := by
  have hacted := acted h x
  generalize a.restarts x = anew at hacted
  cases hacted with
  | restarted aligned counters_eq => exact ⟨aligned, fun _ => counters_eq⟩
  | counted native_eq feed?_eq counters_eq =>
      refine ⟨?_, fun hn => ?_⟩
      · rw [Aligned, native_eq, feed?_eq]
        exact h.aligned
      · rw [native_eq] at hn
        rw [counters_eq, if_pos hn]
        exact h.counters_eq hn
  | released _ native_eq feed?_eq =>
      refine ⟨?_, fun hn => ?_⟩
      · rw [Aligned, native_eq, feed?_eq]
        rfl
      · rw [native_eq] at hn
        cases hn

theorem Consistent.after (h : a.Consistent) (xs : List (Operation σ)) :
    (a.after xs).Consistent := by
  induction xs generalizing a with
  | nil => exact h
  | cons x xs ih => exact ih (h.act x)

theorem IsInvariant.act {P : Aggregator → Prop} (hP : IsInvariant σ P) (h : a.Aligned)
    (hp : P a) (x : Operation σ) : P (a.act x) := by
  obtain ⟨action, s⟩ := x
  cases action with
  | record r => exact hP.recordAll a [r] hp
  | recordAll records => exact hP.recordAll a records hp
  | begin now => exact hP.begin a now hp
  | finish now => exact hP.finish a now hp
  | clear now => exact hP.clear a now s hp
  | tick now => exact hP.tick a now s hp
  | switch source offered? => exact hP.switch a source offered? s h hp

theorem IsInvariant.after {P : Aggregator → Prop} (hP : IsInvariant σ P) (h : a.Consistent)
    (hp : P a) (xs : List (Operation σ)) : P (a.after xs) := by
  induction xs generalizing a with
  | nil => exact hp
  | cons x xs ih => exact ih (h.act x) (hP.act h.aligned hp x)

/-! ## What is counted -/

theorem counters_act (h : a.Consistent) (x : Operation σ) :
    (a.act x).counters = a.counters.after (a.calls x) := by
  have hacted := acted h x
  rw [calls]
  generalize a.restarts x = anew at hacted ⊢
  cases hacted with
  | restarted _ counters_eq =>
      rw [counters_eq]
      rfl
  | counted _ _ counters_eq => rw [counters_eq, if_neg Bool.false_ne_true]
  | released records_eq _ _ counters_eq =>
      rw [counters_eq, records_eq, if_neg Bool.false_ne_true, List.map_nil, ite_self]
      rfl

theorem counters_after (h : a.Consistent) (xs : List (Operation σ)) :
    (a.after xs).counters = a.counters.after (a.callsAlong xs) := by
  induction xs generalizing a with
  | nil => rfl
  | cons x xs ih =>
      rw [after_cons, ih (h.act x), counters_act h x, callsAlong, Counters.after, Counters.after,
        Counters.after, List.foldl_append]

/-- The own counters stay the source until the statistics start anew, and count everything
that is brought until then. -/
theorem after_of_continues (h : a.Consistent) (hn : a.native = false) {xs : List (Operation σ)}
    (hx : a.Continues xs) : (a.after xs).native = false ∧
      a.callsAlong xs = (xs.flatMap fun x => x.action.records).map .record := by
  induction xs generalizing a with
  | nil => exact ⟨hn, rfl⟩
  | cons x xs ih =>
      obtain ⟨hr, hxs⟩ := hx
      have hnext : (a.act x).native = false := by
        have hacted := acted h x
        rw [hr] at hacted
        cases hacted with
        | counted native_eq => rw [native_eq, hn]
        | released _ native_eq => exact native_eq
      obtain ⟨hlast, hcalls⟩ := ih (h.act x) hnext hxs
      refine ⟨hlast, ?_⟩
      rw [callsAlong, hcalls, calls, hr, hn, if_neg Bool.false_ne_true, if_neg Bool.false_ne_true,
        List.flatMap_cons, List.map_append]

/-- Whatever is done to an aggregator, and whatever the feeds answer, recording and reading
agree about the source of the counts.  It is a native feed exactly when one is installed.
Then the own counters are empty, and recording changes nothing.  Otherwise the own counters
count the records that came since the last clear or the last switch that worked, and those
that came while a feed counted are not among them.  Snapshots show what these counters say.
Snapshots and clears then work and ask no feed, so whatever stands behind the feeds is as it
was.  The own counters stay the source until the next clear or the next switch that works,
and count all records that are brought until then. -/
theorem recording_and_reading_agree (cfg : StatsConfig) (xs : List (Operation σ)) :
    let a := (make cfg).after xs
    let counted := Counters.sinceClear ((make cfg).callsAlong xs)
    (a.source = .native ↔ a.feed?.isSome) ∧
      (a.source = .native →
        a.counters = Counters.empty ∧ ∀ records, a.recordAll records = a) ∧
      (a.source = .managed → a.counters.Counted counted ∧
        ∀ (τ : Type) [FeedHost τ] (feeds : τ) (now : Moment),
          (∃ rate, (a.tick now feeds).1 = .ok (Snapshot.ofTally (a.counters.tally cfg) rate
            (a.elapsed now.instant) now.clock)) ∧
          (a.tick now feeds).2.2 = feeds ∧
          (a.clear now.instant feeds).1 = .ok () ∧ (a.clear now.instant feeds).2.2 = feeds) ∧
      ∀ ys, a.source = .managed → a.Continues ys → (a.after ys).source = .managed ∧
        Counters.sinceClear ((make cfg).callsAlong (xs ++ ys)) =
          counted ++ ys.flatMap fun y => y.action.records := by
  intro a counted
  have h : a.Consistent := (consistent_make cfg).after xs
  refine ⟨?_, ?_, ?_, ?_⟩
  · rw [source_eq_native_iff, h.aligned]
  · intro hs
    rw [source_eq_native_iff] at hs
    exact ⟨h.counters_eq hs, recordAll_of_native hs⟩
  · intro hs
    rw [source_eq_managed_iff] at hs
    refine ⟨?_, fun τ _ feeds now => ?_⟩
    · rw [counters_after (consistent_make cfg) xs]
      exact Counters.counted_after _
    · have hf := h.aligned.feed?_eq_none hs
      refine ⟨?_, ?_, ?_, ?_⟩
      · have hcfg : a.cfg = cfg := (isInvariant_cfg cfg).after (consistent_make cfg) rfl xs
        rw [← hcfg]
        exact exists_tick_of_managed hf now feeds
      · rw [Aggregator.tick, tally, hf]
      · rw [Aggregator.clear, clearCounts, hf]
      · rw [Aggregator.clear, clearCounts, hf]
  · intro ys hs hys
    rw [source_eq_managed_iff] at hs ⊢
    obtain ⟨hlast, hcalls⟩ := after_of_continues h hs hys
    refine ⟨hlast, ?_⟩
    rw [callsAlong_append, hcalls, sinceClear_append_map]

end Run

/-- Feeds that have counted nothing, with the numbers of those that were asked. -/
structure Asked where
  failing : Bool
  feeds : List Nat

instance : FeedHost Asked where
  answer n question s :=
    (if s.failing then .error (.engineUnavailable "no answer") else
      .ok (match question with
        | .enable _ | .clear => ()
        | .totals => default
        | .protocols _ | .sources _ | .destinations _ => []
        | .ports _ => []), { s with feeds := s.feeds ++ [n] })

/-- A feed is taken, a record comes, the feed is to make way for another one that cannot be
taken, and another record comes.  That one is counted, and so are those that come between a
snapshot and one more switch that fails. -/
theorem recording_and_reading_agree_refused :
    let works : Asked := ⟨false, []⟩
    let fails : Asked := ⟨true, []⟩
    let taken : List (Operation Asked) := [⟨.switch .native (some 0), works⟩]
    let refused : List (Operation Asked) := taken ++ [⟨.record (Counters.ofProtocol "TCP"), works⟩,
      ⟨.switch .native (some 1), fails⟩, ⟨.record (Counters.ofProtocol "UDP"), works⟩]
    let later : List (Operation Asked) := [⟨.tick default, fails⟩,
      ⟨.recordAll [Counters.ofProtocol "TCP"], fails⟩, ⟨.switch .native none, fails⟩]
    let a := (make .default).after refused
    ((make .default).after taken).recordAll [Counters.ofProtocol "TCP"] =
        (make .default).after taken ∧
      a.counters.Counted [Counters.ofProtocol "UDP"] ∧ (a.tick default fails).2.2.feeds = [] ∧
      Counters.sinceClear ((make .default).callsAlong (refused ++ later)) =
        [Counters.ofProtocol "UDP", Counters.ofProtocol "TCP"] := by
  intro works fails taken refused later a
  obtain ⟨-, hnative, -, -⟩ := recording_and_reading_agree .default taken
  obtain ⟨-, -, hmanaged, hlater⟩ := recording_and_reading_agree .default refused
  refine ⟨(hnative rfl).2 _, (hmanaged rfl).1, ?_, ?_⟩
  · rw [((hmanaged rfl).2 Asked fails default).2.1]
  · exact (hlater later rfl ⟨rfl, rfl, rfl, trivial⟩).2

end PacketMeter.Stats.Aggregator
