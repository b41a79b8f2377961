import PacketMeter.Proofs.Stats.Switching

/-!
# Snapshots only read

A snapshot asks its source and changes nothing but the rates, and these only when it can be made
while a session runs.  A snapshot that fails changes nothing, and neither does a clear that
fails.

What feeds do with a question is up to them.  `Traceless` says of a relation between states of
feeds that it cannot be told by any answer which of two related states the feeds are in, and that
questions which only read and questions which fail lead to a related state.  For such feeds the
actions that change nothing can be left out of a run: everything that is answered later is
answered as before.
-/

namespace PacketMeter.Stats

variable {σ : Type}

/-! ## Feeds that are read -/

namespace Feed

/-- Whether a question asks what was counted. -/
def isReading {α : Type} : FeedCall α → Bool
  | .totals | .protocols _ | .sources _ | .destinations _ | .ports _ => true
  | .enable _ | .clear => false

/-- Two results are the same, and the feeds are in related states. -/
def Same {α : Type} (R : σ → σ → Prop) (p q : α × σ) : Prop := p.1 = q.1 ∧ R p.2 q.2

theorem Same.exists_eq {α : Type} {R : σ → σ → Prop} {p q : α × σ} (h : Same R p q) :
    ∃ a s s', p = (a, s) ∧ q = (a, s') ∧ R s s' :=
  ⟨p.1, p.2, q.2, rfl, Prod.ext h.1.symm rfl, h.2⟩

variable [FeedHost σ] {R : σ → σ → Prop} {s s' : σ}

/-- Feeds in related states answer alike, and reading and failing lead to related states. -/
structure Traceless (R : σ → σ → Prop) : Prop where
  equivalence : Equivalence R
  answer : ∀ {α : Type} (feed : Nat) (question : FeedCall α) {s s' : σ}, R s s' →
    Same R (FeedHost.answer feed question s) (FeedHost.answer feed question s')
  reading : ∀ {α : Type} (feed : Nat) (question : FeedCall α) (s : σ), isReading question →
    R s (FeedHost.answer feed question s).2
  failing : ∀ {α : Type} (feed : Nat) (question : FeedCall α) (s : σ) (f : Failure),
    (FeedHost.answer feed question s).1 = .error f → R s (FeedHost.answer feed question s).2

omit [FeedHost σ] in
theorem Same.andThen {α β : Type} {asked asked' : Except Failure α × σ}
    {next : α → σ → Except Failure β × σ} (h : Same R asked asked')
    (hnext : ∀ a s s', R s s' → Same R (next a s) (next a s')) :
    Same R (andThen asked next) (andThen asked' next) := by
  obtain ⟨outcome, s, s', rfl, rfl, hs⟩ := h.exists_eq
  cases outcome with
  | error f => exact ⟨rfl, hs⟩
  | ok a => exact hnext a s s' hs

omit [FeedHost σ] in
/-- What leads to a related state question by question does so as a whole. -/
theorem related_andThen {α β : Type} (hR : Equivalence R) {asked : Except Failure α × σ}
    {next : α → σ → Except Failure β × σ} (h : R s asked.2)
    (hnext : ∀ a s, R s (next a s).2) : R s (andThen asked next).2 := by
  obtain ⟨outcome, s'⟩ := asked
  cases outcome with
  | error f => exact h
  | ok a => exact hR.trans h (hnext a s')

theorem Traceless.same_tally (hR : Traceless R) (feed : Nat) (cfg : StatsConfig) (h : R s s') :
    Same R (tally feed cfg s) (tally feed cfg s') := by
  refine (hR.answer feed _ h).andThen fun totals s s' h => ?_
  refine (hR.answer feed _ h).andThen fun protocols s s' h => ?_
  refine (hR.answer feed _ h).andThen fun sources s s' h => ?_
  refine (hR.answer feed _ h).andThen fun destinations s s' h => ?_
  exact (hR.answer feed _ h).andThen fun ports s s' h => ⟨rfl, h⟩

theorem Traceless.related_tally (hR : Traceless R) (feed : Nat) (cfg : StatsConfig) (s : σ) :
    R s (tally feed cfg s).2 := by
  have he := hR.equivalence
  refine related_andThen he (hR.reading feed _ s rfl) fun totals s => ?_
  refine related_andThen he (hR.reading feed _ s rfl) fun protocols s => ?_
  refine related_andThen he (hR.reading feed _ s rfl) fun sources s => ?_
  refine related_andThen he (hR.reading feed _ s rfl) fun destinations s => ?_
  exact related_andThen he (hR.reading feed _ s rfl) fun ports s => he.refl s

end Feed

namespace Aggregator

open Feed

variable [FeedHost σ] {a : Aggregator} {R : σ → σ → Prop} {s s' : σ}

/-! ## Related feeds -/

theorem same_tally (hR : Traceless R) (a : Aggregator) (h : R s s') :
    Same R (a.tally s) (a.tally s') := by
  unfold tally
  split
  · exact hR.same_tally _ _ h
  · exact ⟨rfl, h⟩

theorem related_tally (hR : Traceless R) (a : Aggregator) (s : σ) : R s (a.tally s).2 := by
  unfold tally
  split
  · exact hR.related_tally _ _ s
  · exact hR.equivalence.refl s

/-- The same answer, the same aggregator and related feeds. -/
def SameResult {ρ : Type} (R : σ → σ → Prop) (p q : ρ × Aggregator × σ) : Prop :=
  p.1 = q.1 ∧ Same R p.2 q.2

omit [FeedHost σ] in
theorem SameResult.exists_eq {ρ : Type} {p q : ρ × Aggregator × σ} (h : SameResult R p q) :
    ∃ r b s s', p = (r, b, s) ∧ q = (r, b, s') ∧ R s s' := by
  obtain ⟨b, s, s', hp, hq, hs⟩ := h.2.exists_eq
  exact ⟨p.1, b, s, s', Prod.ext rfl hp, Prod.ext h.1.symm hq, hs⟩

theorem sameResult_tick (hR : Traceless R) (a : Aggregator) (now : Moment) (h : R s s') :
    SameResult R (a.tick now s) (a.tick now s') := by
  obtain ⟨outcome, s₁, s₁', hp, hq, hs⟩ := (same_tally hR a h).exists_eq
  rw [tick, tick, hp, hq]
  cases outcome with
  | error f => exact ⟨rfl, rfl, hs⟩
  | ok t => exact ⟨rfl, rfl, hs⟩

theorem related_tick (hR : Traceless R) (a : Aggregator) (now : Moment) (s : σ) :
    R s (a.tick now s).2.2 := by
  have htally := related_tally hR a s
  unfold tick
  generalize a.tally s = p at htally ⊢
  obtain ⟨outcome, s'⟩ := p
  cases outcome with
  | error f => exact htally
  | ok t => exact htally

theorem sameResult_clearCounts (hR : Traceless R) (a : Aggregator) (h : R s s') :
    SameResult R (a.clearCounts s) (a.clearCounts s') := by
  unfold clearCounts Feed.clear
  split
  · obtain ⟨ho, hs⟩ := hR.answer _ .clear h
    exact ⟨ho, rfl, hs⟩
  · exact ⟨rfl, rfl, h⟩

theorem sameResult_clear (hR : Traceless R) (a : Aggregator) (now : Duration) (h : R s s') :
    SameResult R (a.clear now s) (a.clear now s') := by
  obtain ⟨outcome, b, s₁, s₁', hp, hq, hs⟩ := (sameResult_clearCounts hR a h).exists_eq
  rw [clear, clear, hp, hq]
  cases outcome with
  | error f => exact ⟨rfl, rfl, hs⟩
  | ok => exact ⟨rfl, rfl, hs⟩

theorem same_release (hR : Traceless R) (a : Aggregator) (h : R s s') :
    Same R (a.release s) (a.release s') := by
  unfold release Feed.enable
  split
  · exact ⟨rfl, (hR.answer _ (.enable false) h).2⟩
  · exact ⟨rfl, h⟩

theorem sameResult_install (hR : Traceless R) (a : Aggregator) (feed : Nat) (h : R s s') :
    SameResult R (a.install feed s) (a.install feed s') := by
  obtain ⟨outcome, s₁, s₁', hp, hq, hs⟩ := (hR.answer feed (.enable true) h).exists_eq
  rw [install, install, Feed.enable, Feed.enable, hp, hq]
  cases outcome with
  | error f => exact ⟨rfl, rfl, hs⟩
  | ok =>
      obtain ⟨outcome, s₂, s₂', hp, hq, hs⟩ := (hR.answer feed .clear hs).exists_eq
      dsimp only
      rw [Feed.clear, Feed.clear, hp, hq]
      cases outcome with
      | error f => exact ⟨rfl, rfl, hs⟩
      | ok => exact ⟨rfl, rfl, hs⟩

theorem sameResult_switch (hR : Traceless R) (a : Aggregator) (source : Source)
    (offered? : Option Nat) (h : R s s') :
    SameResult R (a.switch source offered? s) (a.switch source offered? s') := by
  obtain ⟨hb, hs⟩ := same_release hR a h
  unfold switch
  split
  · exact ⟨rfl, congrArg reset hb, hs⟩
  · exact ⟨rfl, rfl, h⟩
  · dsimp only
    rw [← hb]
    obtain ⟨outcome, b, s₁, s₁', hp, hq, hs⟩ :=
      (sameResult_install hR (a.release s).1 ‹Nat› hs).exists_eq
    rw [hp, hq]
    cases outcome with
    | error f => exact ⟨rfl, rfl, hs⟩
    | ok => exact ⟨rfl, rfl, hs⟩

/-! ## Runs with their answers -/

/-- What an action answers. -/
inductive Reply where
  | done
  | outcome (result : Except Failure Unit)
  | snapshot (result : Except Failure Snapshot)

/-- An action with its answer, on an aggregator whose feeds are in some state. -/
def perform (a : Aggregator) (s : σ) : Action → Reply × Aggregator × σ
  | .record r => (.done, a.record r, s)
  | .recordAll records => (.done, a.recordAll records, s)
  | .begin now => (.done, a.begin now, s)
  | .finish now => (.done, a.finish now, s)
  | .clear now => (.outcome (a.clear now s).1, (a.clear now s).2)
  | .tick now => (.snapshot (a.tick now s).1, (a.tick now s).2)
  | .switch source offered? =>
    (.outcome (a.switch source offered? s).1, (a.switch source offered? s).2)

/-- An action, and what happens to the feeds before it. -/
structure Turn (σ : Type) where
  meanwhile : σ → σ
  action : Action

/-- What the actions of a run answer. -/
def replies (a : Aggregator) (s : σ) : List (Turn σ) → List Reply
  | [] => []
  | x :: xs =>
    let p := a.perform (x.meanwhile s) x.action
    p.1 :: p.2.1.replies p.2.2 xs

/-- The aggregator at the end of a run. -/
def final (a : Aggregator) (s : σ) : List (Turn σ) → Aggregator
  | [] => a
  | x :: xs =>
    let p := a.perform (x.meanwhile s) x.action
    p.2.1.final p.2.2 xs

/-- What happens to feeds keeps related states related. -/
def Respects (R : σ → σ → Prop) (xs : List (Turn σ)) : Prop :=
  ∀ x ∈ xs, ∀ s s', R s s' → R (x.meanwhile s) (x.meanwhile s')

/-- An action with its answer is an operation on an aggregator. -/
theorem perform_eq_act (a : Aggregator) (s : σ) (x : Action) :
    (a.perform s x).2.1 = a.act ⟨x, s⟩ := by
  cases x with
  | record | recordAll | begin | finish | clear | tick | switch => rfl

theorem sameResult_perform (hR : Traceless R) (a : Aggregator) (x : Action) (h : R s s') :
    SameResult R (a.perform s x) (a.perform s' x) := by
  cases x with
  | record | recordAll | begin | finish => exact ⟨rfl, rfl, h⟩
  | clear now =>
      obtain ⟨ho, hs⟩ := sameResult_clear hR a now h
      exact ⟨congrArg Reply.outcome ho, hs⟩
  | tick now =>
      obtain ⟨ho, hs⟩ := sameResult_tick hR a now h
      exact ⟨congrArg Reply.snapshot ho, hs⟩
  | switch source offered? =>
      obtain ⟨ho, hs⟩ := sameResult_switch hR a source offered? h
      exact ⟨congrArg Reply.outcome ho, hs⟩

/-- Runs from related states of the feeds give the same answers and the same aggregator. -/
theorem replies_eq_of_related (hR : Traceless R) (a : Aggregator) (h : R s s')
    {xs : List (Turn σ)} (hxs : Respects R xs) :
    a.replies s xs = a.replies s' xs ∧ a.final s xs = a.final s' xs := by
  induction xs generalizing a s s' with
  | nil => exact ⟨rfl, rfl⟩
  | cons x xs ih =>
      obtain ⟨reply, b, s₁, s₁', hp, hq, hs⟩ :=
        (sameResult_perform hR a x.action (hxs x List.mem_cons_self s s' h)).exists_eq
      rw [replies, replies, final, final, hp, hq]
      obtain ⟨hreplies, hfinal⟩ := ih b hs fun y hy => hxs y (List.mem_cons_of_mem x hy)
      exact ⟨congrArg (reply :: ·) hreplies, hfinal⟩

/-! ## Actions without an effect -/

/-- Whether a session runs after some operations: one has begun, and has not ended since. -/
def inSession (xs : List (Operation σ)) : Bool :=
  xs.foldl (fun running x => match x.action with
    | .begin _ => true
    | .finish _ => false
    | .record _ | .recordAll _ | .clear _ | .tick _ | .switch _ _ => running) false

theorem isSome_started?_act (a : Aggregator) (x : Operation σ) :
    (a.act x).started?.isSome = match x.action with
      | .begin _ => true
      | .finish _ => false
      | .record _ | .recordAll _ | .clear _ | .tick _ | .switch _ _ => a.started?.isSome := by
  obtain ⟨action, s⟩ := x
  cases action with
  | record r => exact congrArg Option.isSome (a.started?_recordAll [r])
  | recordAll records => exact congrArg Option.isSome (a.started?_recordAll records)
  | begin | finish => rfl
  | clear now => exact a.isSome_started?_clear now s
  | tick now => exact congrArg Option.isSome (a.started?_tick now s)
  | switch source offered? => exact congrArg Option.isSome (a.started?_switch source offered? s)

/-- A session is timed from its beginning to its end. -/
theorem isSome_started?_after (cfg : StatsConfig) (xs : List (Operation σ)) :
    ((make cfg).after xs).started?.isSome = inSession xs := by
  induction xs using List.reverseRecOn with
  | nil => rfl
  | append_singleton xs x ih =>
      rw [after, List.foldl_concat, ← after, isSome_started?_act, inSession, List.foldl_concat,
        ← inSession, ih]

/-- An action is to have no effect: a snapshot or a clear that fails, or a snapshot while no
session runs. -/
inductive Idle (running : Bool) : Action → Reply → Prop
  | failedTick (now : Moment) (f : Failure) : Idle running (.tick now) (.snapshot (.error f))
  | failedClear (now : Duration) (f : Failure) : Idle running (.clear now) (.outcome (.error f))
  | outside (now : Moment) (reply : Reply) (h : running = false) : Idle running (.tick now) reply

theorem tick_of_tally_error {f : Failure} (h : a.tally s = (.error f, s')) (now : Moment) :
    a.tick now s = (.error f, a, s') := by
  rw [tick, h]

theorem tick_of_tally_ok {t : Tally} (h : a.tally s = (.ok t, s')) (now : Moment) :
    ∃ snapshot, a.tick now s =
      (.ok snapshot, { a with rates := a.sampled now.instant t.packets }, s') := by
  rw [tick, h]
  exact ⟨_, rfl⟩

theorem tick_of_error {now : Moment} {f : Failure} (h : (a.tick now s).1 = .error f) :
    (a.tick now s).2.1 = a := by
  cases htally : a.tally s with
  | mk outcome s' =>
      cases outcome with
      | error => rw [tick_of_tally_error htally]
      | ok =>
          obtain ⟨snapshot, he⟩ := tick_of_tally_ok htally now
          rw [he] at h
          cases h

/-- A clear fails only with the feed. -/
theorem clear_of_error {now : Duration} {f : Failure} (h : (a.clear now s).1 = .error f) :
    ∃ feed, (FeedHost.answer feed .clear s).1 = .error f ∧
      (a.clear now s).2 = (a, (FeedHost.answer feed .clear s).2) := by
  cases hf : a.feed? with
  | none =>
      rw [clear, clearCounts, hf] at h
      cases h
  | some feed =>
      have hcounts : a.clearCounts s = ((FeedHost.answer feed .clear s).1, a,
          (FeedHost.answer feed .clear s).2) := by
        rw [clearCounts, hf]
        rfl
      rw [clear, hcounts] at h ⊢
      refine ⟨feed, ?_⟩
      generalize FeedHost.answer feed .clear s = p at h ⊢
      obtain ⟨outcome, s'⟩ := p
      cases outcome with
      | error => exact ⟨h, rfl⟩
      | ok => cases h

theorem perform_of_idle {x : Action} (h : Idle a.started?.isSome x (a.perform s x).1) :
    (a.perform s x).2.1 = a ∧ ∀ R, Traceless R → R s (a.perform s x).2.2 := by
  generalize hreply : (a.perform s x).1 = reply at h
  cases h with
  | failedTick now f =>
      exact ⟨tick_of_error (Reply.snapshot.inj hreply), fun R hR => related_tick hR a now s⟩
  | failedClear now f =>
      obtain ⟨feed, hfail, hc⟩ := clear_of_error (Reply.outcome.inj hreply)
      refine ⟨congrArg Prod.fst hc, fun R hR => ?_⟩
      rw [perform, hc]
      exact hR.failing feed .clear s f hfail
  | outside now _ hrunning =>
      rw [Option.isSome_eq_false_iff, Option.isNone_iff_eq_none] at hrunning
      exact ⟨tick_of_not_started hrunning now s, fun R hR => related_tick hR a now s⟩

/-- A snapshot of any aggregator can be made exactly if its source answers.  If it can, all that
changes are the rates, which take one sample of the packets that the source has counted, and that
only while a session runs.  If it cannot, nothing changes.

A snapshot that fails, a clear that fails and a snapshot while no session runs leave the
aggregator as it was.  If neither reading nor failing leaves a trace in the feeds, every later
action is answered as it would have been without, and the aggregator ends as the same. -/
theorem snapshots_only_read (cfg : StatsConfig) (xs : List (Operation σ)) (s : σ) :
    let a := (make cfg).after xs
    (∀ now t s', a.tally s = (.ok t, s') → ∃ snapshot, a.tick now s = (.ok snapshot,
        { a with rates :=
          if inSession xs then a.rates.sample now.instant t.packets else a.rates }, s')) ∧
      (∀ now f s', a.tally s = (.error f, s') → a.tick now s = (.error f, a, s')) ∧
      ∀ x, Idle (inSession xs) x (a.perform s x).1 →
        (a.perform s x).2.1 = a ∧ ∀ R, Traceless R → ∀ ys, Respects R ys →
          a.replies (a.perform s x).2.2 ys = a.replies s ys ∧
            a.final (a.perform s x).2.2 ys = a.final s ys := by
  intro a
  have hrunning : a.started?.isSome = inSession xs := isSome_started?_after cfg xs
  refine ⟨fun now t s' h => ?_, fun now f s' h => tick_of_tally_error h now, fun x hx => ?_⟩
  · rw [← hrunning]
    exact tick_of_tally_ok h now
  · rw [← hrunning] at hx
    obtain ⟨ha, hrelated⟩ := perform_of_idle hx
    refine ⟨ha, fun R hR ys hys => ?_⟩
    exact replies_eq_of_related hR a (hR.equivalence.symm (hrelated R hR)) hys

/-- A feed that counts packets.  While it is broken it neither lists ports nor can be cleared.  It
also counts the questions that it was asked, of which nothing can be seen. -/
structure Meter where
  packets : UInt64
  broken : Bool
  asked : Nat

namespace Meter

instance : FeedHost Meter where
  answer _ question m := match question with
    | .enable _ => (.ok (), { m with asked := m.asked + 1 })
    | .clear =>
      if m.broken then (.error (.engineUnavailable "broken"), { m with asked := m.asked + 1 })
      else (.ok (), { m with packets := 0, asked := m.asked + 1 })
    | .totals => (.ok ⟨m.packets, 0, 0, 0, 0⟩, { m with asked := m.asked + 1 })
    | .protocols _ | .sources _ | .destinations _ => (.ok [], { m with asked := m.asked + 1 })
    | .ports _ =>
      if m.broken then (.error (.engineUnavailable "broken"), { m with asked := m.asked + 1 })
      else (.ok [], { m with asked := m.asked + 1 })

/-- All that can be seen of the feed is the same. -/
def Similar (m m' : Meter) : Prop := m.packets = m'.packets ∧ m.broken = m'.broken

theorem traceless_similar : Traceless Similar where
  equivalence := ⟨fun _ => ⟨rfl, rfl⟩, fun h => ⟨h.1.symm, h.2.symm⟩,
    fun h h' => ⟨h.1.trans h'.1, h.2.trans h'.2⟩⟩
  answer feed question m m' h := by
    obtain ⟨packets, broken, asked⟩ := m
    obtain ⟨_, _, asked'⟩ := m'
    obtain ⟨rfl, rfl⟩ := h
    cases broken <;> cases question <;> exact ⟨rfl, rfl, rfl⟩
  reading feed question m h := by
    obtain ⟨packets, broken, asked⟩ := m
    cases broken <;> cases question <;> first | exact ⟨rfl, rfl⟩ | cases h
  failing feed question m f h := by
    obtain ⟨packets, broken, asked⟩ := m
    cases broken <;> cases question <;> first | exact ⟨rfl, rfl⟩ | cases h

/-- The feed goes on counting, and is repaired. -/
def repaired (m : Meter) : Meter := { m with packets := m.packets + 3, broken := false }

end Meter

/-- In a session of a native feed that breaks, a snapshot fails at its last question and a clear
fails.  Once the feed is repaired, the snapshots are those that would have been made without
either of them. -/
theorem snapshots_only_read_broken :
    let taken : List (Operation Meter) :=
      [⟨.switch .native (some 0), ⟨0, false, 0⟩⟩, ⟨.begin ⟨0⟩, ⟨0, false, 2⟩⟩]
    let a := (make .default).after taken
    let m : Meter := ⟨7, true, 2⟩
    let later : List (Turn Meter) := [⟨Meter.repaired, .tick ⟨⟨2⟩, default⟩⟩, ⟨id, .clear ⟨3⟩⟩,
      ⟨Meter.repaired, .tick ⟨⟨4⟩, default⟩⟩]
    (a.tick ⟨⟨1⟩, default⟩ m).2.2 = ⟨7, true, 7⟩ ∧
      a.replies ⟨7, true, 7⟩ later = a.replies m later ∧
      (a.clear ⟨1⟩ m).2.2 = ⟨7, true, 3⟩ ∧ a.replies ⟨7, true, 3⟩ later = a.replies m later := by
  intro taken a m later
  have hlater : Respects Meter.Similar later := by
    intro y hy m m' h
    simp only [later, List.mem_cons, List.not_mem_nil, or_false] at hy
    rcases hy with rfl | rfl | rfl
    · exact ⟨congrArg (· + 3) h.1, rfl⟩
    · exact h
    · exact ⟨congrArg (· + 3) h.1, rfl⟩
  obtain ⟨-, -, hidle⟩ := snapshots_only_read .default taken m
  refine ⟨rfl, ?_, rfl, ?_⟩
  · have htick := hidle (.tick ⟨⟨1⟩, default⟩) (.failedTick _ _)
    exact (htick.2 _ Meter.traceless_similar later hlater).1
  · have hclear := hidle (.clear ⟨1⟩) (.failedClear _ _)
    exact (hclear.2 _ Meter.traceless_similar later hlater).1

end Aggregator

end PacketMeter.Stats
