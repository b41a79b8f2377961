import PacketMeter.Proofs.Stats.Sources

/-!
# Switches that fail

A switch fails when there is no feed to take, or when the feed cannot be switched on or
cleared.  Without a feed to take nothing has been done, and while the own counters count there
is nothing that could be lost.

A feed that counts is let go of before the new one is asked, though, and it is not taken back
when the new one fails.  The own counters then count, although the switch has failed and the
statistics have not been started anew.
-/

namespace PacketMeter.Stats.Aggregator

variable {σ : Type} [FeedHost σ] {a : Aggregator} {source : Source} {offered? : Option Nat}
  {s : σ} {f : Failure}

/-- A switch fails before anything is done, or without the feed that was let go of. -/
theorem switch_of_error (h : (a.switch source offered? s).1 = .error f) :
    source = .native ∧ ((offered? = none ∧ (a.switch source offered? s).2 = (a, s)) ∨
      (offered?.isSome ∧
        (a.switch source offered? s).2.1 = { a with feed? := none, native := false })) := by
  cases source with
  | managed => cases h
  | native =>
      cases offered? with
      | none => exact ⟨rfl, .inl ⟨rfl, rfl⟩⟩
      | some feed =>
          have hs := a.switched .native (some feed) s
          rw [h] at hs
          generalize (a.switch .native (some feed) s).2.1 = b at hs ⊢
          cases hs
          exact ⟨rfl, .inr ⟨rfl, rfl⟩⟩

/-- There is no feed that could be lost. -/
theorem switch_of_error_of_managed (ha : a.Consistent) (hn : a.native = false)
    (h : (a.switch source offered? s).1 = .error f) : (a.switch source offered? s).2.1 = a := by
  obtain ⟨-, ⟨-, hs⟩ | ⟨-, hs⟩⟩ := switch_of_error h
  · rw [hs]
  · rw [hs, ← hn, ← ha.aligned.feed?_eq_none hn]

/-- Without a feed no state of feeds changes what a snapshot shows. -/
theorem tick_congr (h : a.feed? = none) (now : Moment) (s s' : σ) :
    (a.tick now s).1 = (a.tick now s').1 ∧ (a.tick now s).2.1 = (a.tick now s').2.1 := by
  rw [tick, tick, tally, tally, h]
  exact ⟨rfl, rfl⟩

theorem feed?_recordAll (a : Aggregator) (records : List PacketRecord) :
    (a.recordAll records).feed? = a.feed? := by
  obtain ⟨counters, hc⟩ := a.exists_recordAll_eq records
  rw [hc]

/-- A switch that fails was to the native source.  When the own counters count, or when no
feed is offered, it leaves the aggregator as it was, and whatever is recorded afterwards the
next snapshot is the one that would have been made without it.  When one feed was to make
way for another, the old one is gone, and the own counters count from zero.  Everything else
is as it was, the rates as well. -/
theorem failed_switch (cfg : StatsConfig) (xs : List (Operation σ)) (source : Source)
    (offered? : Option Nat) (feeds : σ) (f : Failure)
    (h : (((make cfg).after xs).switch source offered? feeds).1 = .error f) :
    let a := (make cfg).after xs
    let b := (a.switch source offered? feeds).2.1
    let feeds' := (a.switch source offered? feeds).2.2
    source = .native ∧
      (a.source = .managed ∨ offered? = none → b = a ∧ ∀ records now,
        ((b.recordAll records).tick now feeds').1 = ((a.recordAll records).tick now feeds).1 ∧
          ((b.recordAll records).tick now feeds').2.1 =
            ((a.recordAll records).tick now feeds).2.1) ∧
      (a.source = .native → offered?.isSome →
        b = { a with feed? := none, native := false } ∧ b.source = .managed ∧
          b.counters = Counters.empty) := by
  intro a b feeds'
  have ha : a.Consistent := (consistent_make cfg).after xs
  obtain ⟨hsource, hs⟩ := switch_of_error h
  refine ⟨hsource, ?_, ?_⟩
  · intro hkept
    rcases hs with ⟨-, hs⟩ | ⟨ho, -⟩
    · have hb : b = a := congrArg Prod.fst hs
      have hfeeds : feeds' = feeds := congrArg Prod.snd hs
      rw [hb, hfeeds]
      exact ⟨rfl, fun _ _ => ⟨rfl, rfl⟩⟩
    · have hn : a.native = false := by
        refine (source_eq_managed_iff a).1 (hkept.resolve_right ?_)
        rintro rfl
        cases ho
      have hb : b = a := switch_of_error_of_managed ha hn h
      rw [hb]
      refine ⟨rfl, fun records now => tick_congr ?_ now feeds' feeds⟩
      rw [feed?_recordAll, ha.aligned.feed?_eq_none hn]
  · intro hn ho
    have hb : b = { a with feed? := none, native := false } := by
      rcases hs with ⟨rfl, -⟩ | ⟨-, hs⟩
      · cases ho
      · exact hs
    rw [hb]
    exact ⟨rfl, rfl, ha.counters_eq ((source_eq_native_iff a).1 hn)⟩

/-- A feed that is taken, and one that is then refused: the failing switch has left no feed. -/
theorem failed_switch_refused :
    let a := (make .default).after [(⟨.switch .native (some 0), ⟨false, []⟩⟩ : Operation Asked)]
    let b := (a.switch .native (some 1) (⟨true, []⟩ : Asked)).2.1
    a.feed? = some 0 ∧ b = { a with feed? := none, native := false } ∧
      b.source = .managed ∧ b.counters = Counters.empty := by
  intro a b
  obtain ⟨-, -, hlost⟩ := failed_switch .default
    [(⟨.switch .native (some 0), ⟨false, []⟩⟩ : Operation Asked)] .native (some 1) ⟨true, []⟩ _ rfl
  exact ⟨rfl, hlost rfl rfl⟩

/-- The aggregator is not as it was: a feed has counted before the switch, and afterwards the
own counters count, with the one feed switched off and the other one not taken. -/
theorem failed_switch_changes_source :
    ¬ ∀ (xs : List (Operation Asked)) (source : Source) (offered? : Option Nat) (feeds : Asked)
      (f : Failure), (((make .default).after xs).switch source offered? feeds).1 = .error f →
        (((make .default).after xs).switch source offered? feeds).2.1.source =
          ((make .default).after xs).source := by
  intro h
  have hsame := h [⟨.switch .native (some 0), ⟨false, []⟩⟩] .native (some 1) ⟨true, []⟩ _ rfl
  cases hsame

end PacketMeter.Stats.Aggregator
