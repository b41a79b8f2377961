import PacketMeter.Proofs.Capture.Renumbering
import PacketMeter.Proofs.Session.Action

/-!
# Sessions whose queues have other numbers

`Renumbered f c c'` says that the controllers are the same but for the numbers of queues of packets,
which are in every channel those of `f` and the channel.  What the controllers said before is not
compared.

Steps that are about the same queues are answered alike, do the same with the host and keep the
controllers the same.  What can be seen of whole runs is therefore the same, too.
-/

namespace PacketMeter.Session

open PacketMeter.Capture (Agrees Bridge Packets)
open PacketMeter.Stats

/-- The same session, where queues have other numbers. -/
def Running.renumber (f : Nat → Nat → Nat) (r : Running) : Running :=
  { r with queue := f r.channel r.queue }

/-- The same action, where queues have other numbers. -/
def Action.renumber (f : Nat → Nat → Nat) : Action → Action
  | .onPackets channel action => .onPackets channel (action.renumber (f channel))
  | a => a

/-- The same step, where queues have other numbers. -/
def Step.renumber {σ : Type} (f : Nat → Nat → Nat) (x : Step σ) : Step σ :=
  { x with action := x.action.renumber f }

namespace Controller

variable {σ : Type} {f : Nat → Nat → Nat} {c c' : Controller}

/-- A controller is another one whose queues have other numbers. -/
def Renumbered (f : Nat → Nat → Nat) (c c' : Controller) : Prop :=
  ∃ bridge passed, c' = { c with
    bridge, passed, running? := c.running?.map (Running.renumber f) } ∧
      c.bridge.Renumbered f bridge

theorem Renumbered.status_eq (h : Renumbered f c c') : c'.status = c.status := by
  obtain ⟨bridge, passed, rfl, -⟩ := h
  rfl

theorem Renumbered.running?_eq (h : Renumbered f c c') :
    c'.running? = c.running?.map (Running.renumber f) := by
  obtain ⟨bridge, passed, rfl, -⟩ := h
  rfl

theorem Renumbered.departures_eq (h : Renumbered f c c') : c'.departures = c.departures := by
  obtain ⟨bridge, passed, rfl, -⟩ := h
  rfl

theorem Renumbered.publisher_eq (h : Renumbered f c c') : c'.publisher = c.publisher := by
  obtain ⟨bridge, passed, rfl, -⟩ := h
  rfl

/-! ## Queues -/

theorem Renumbered.move (h : Renumbered f c c') (state : State) (device? : Option Nat)
    (started? : Option Timestamp) :
    Renumbered f (c.move state device? started?) (c'.move state device? started?) := by
  obtain ⟨bridge, passed, rfl, h⟩ := h
  exact ⟨bridge, _, rfl, h⟩

theorem Renumbered.subscribe (h : Renumbered f c c') :
    c'.subscribe.1 = (c.subscribe.1.1, f c.subscribe.1.1 c.subscribe.1.2) ∧
      Renumbered f c.subscribe.2 c'.subscribe.2 := by
  obtain ⟨bridge, passed, rfl, h⟩ := h
  unfold Controller.subscribe
  cases hp : c.bridge.channel? c.channel with
  | none =>
      rw [h.channel?_of_none hp]
      refine ⟨?_, bridge, passed, rfl, h⟩
      have hfresh : f c.channel = id := by
        obtain ⟨channels, -, h⟩ := h
        exact h.fresh _ (List.getElem?_eq_none_iff.1 hp)
      rw [hfresh]
      rfl
  | some packets =>
      obtain ⟨packets', hp', hr⟩ := h.exists_channel hp
      obtain ⟨hnumber, hs⟩ := hr.subscribe
      rw [hp']
      exact ⟨Prod.ext rfl hnumber, _, passed, rfl, h.modifyChannel fun _ _ _ _ _ => hs⟩

theorem Renumbered.feed (h : Renumbered f c c') : Renumbered f c.feed c'.feed := by
  obtain ⟨cfg, feed?, b, channel, status, said, running?, sessions, departures, aggregator,
    publisher⟩ := c
  obtain ⟨bridge, passed, rfl, h⟩ := h
  cases running? with
  | none => exact ⟨bridge, passed, rfl, h⟩
  | some r =>
      obtain ⟨id, i, queue, feeding⟩ := r
      cases feeding with
      | false => exact ⟨bridge, passed, rfl, h⟩
      | true =>
          have hr := h.rel i
          have hm : ∀ p p', Channel.Renumbered (f i) p p' →
              (b.modifyChannel i fun _ => p).Renumbered f (bridge.modifyChannel i fun _ => p') :=
            fun p p' hp => h.modifyChannel fun _ _ _ _ _ => hp
          simp only [Controller.feed, Option.map_some, Running.renumber, if_true]
          change Option.Rel _ (b.channel? i) (bridge.channel? i) at hr
          generalize b.channel? i = o at hr ⊢
          generalize bridge.channel? i = o' at hr ⊢
          cases hr with
          | none => exact ⟨bridge, passed, rfl, h⟩
          | @some packets packets' hp =>
              obtain ⟨hresult, ht⟩ := hp.take queue .batch
              dsimp only
              rw [hresult]
              cases (packets.take queue .batch).1 with
              | ready => exact ⟨_, passed, rfl, hm _ _ ht⟩
              | ended => exact ⟨_, passed, rfl, hm _ _ ht⟩
              | pending => exact ⟨_, passed, rfl, hm _ _ ht⟩

theorem Renumbered.queued_eq (h : Renumbered f c c') (i queue : Nat) :
    c'.queued i (f i queue) = c.queued i queue := by
  obtain ⟨bridge, passed, rfl, h⟩ := h
  unfold queued
  cases hp : c.bridge.channel? i with
  | none =>
      rw [h.channel?_of_none hp]
      rfl
  | some packets =>
      obtain ⟨packets', hp', hr⟩ := h.exists_channel hp
      rw [hp', Option.bind_some, Option.bind_some, hr.queue?_eq]

theorem Renumbered.renew (h : Renumbered f c c') (r : Running) :
    Renumbered f (c.renew r) (c'.renew (r.renumber f)) := by
  obtain ⟨bridge, passed, rfl, h⟩ := h
  have hclosed : (c.bridge.modifyChannel r.channel Channel.close).Renumbered f
      (bridge.modifyChannel r.channel Channel.close) :=
    h.modifyChannel fun _ _ _ _ hp => hp.close
  obtain ⟨hnumber, hopen⟩ :=
    hclosed.openChannel c.cfg.capture.capacity c.cfg.capture.batch
  exact ⟨_, passed, congrArg (fun channel => ({ c with
    bridge := _, channel, passed, running? := _ } : Controller)) hnumber, hopen⟩

theorem Renumbered.drain (h : Renumbered f c c') (r : Running) :
    Renumbered f (c.drain r) (c'.drain (r.renumber f)) := by
  have hq := h.queued_eq r.channel r.queue
  obtain ⟨bridge, passed, rfl, h⟩ := h
  unfold Controller.drain
  change Renumbered f (if r.feeding then _ else _) (if r.feeding then _ else _)
  split
  · change Renumbered f _ { c with
      aggregator := c.aggregator.recordAll (Controller.queued _ r.channel (f r.channel r.queue))
      bridge := _, departures := _, passed, running? := _ }
    rw [hq]
    exact ⟨_, passed, rfl, h.modifyChannel fun _ _ _ _ hp => hp.modify r.queue _⟩
  · exact ⟨bridge, passed, rfl, h⟩

/-! ## Snapshots -/

section Snapshots

variable [FeedHost σ]

theorem Renumbered.publish (h : Renumbered f c c') (now : Moment) (s : σ) :
    Renumbered f (c.publish now s).1 (c'.publish now s).1 ∧
      (c'.publish now s).2 = (c.publish now s).2 := by
  obtain ⟨bridge, passed, rfl, h⟩ := h
  exact ⟨⟨bridge, passed, rfl, h⟩, rfl⟩

theorem Renumbered.tick (h : Renumbered f c c') (now : Moment) (s : σ) :
    Renumbered f (c.tick now s).1 (c'.tick now s).1 ∧ (c'.tick now s).2 = (c.tick now s).2 := by
  have hpublish := h.publish now s
  unfold Controller.tick
  rw [h.running?_eq, Option.isSome_map]
  split
  · exact hpublish
  · exact ⟨h, rfl⟩

theorem Renumbered.clear (h : Renumbered f c c') (now : Moment) (s : σ) :
    Agrees (Renumbered f) (c.clear now s) (c'.clear now s) := by
  obtain ⟨bridge, passed, rfl, h⟩ := h
  unfold Controller.clear
  dsimp only
  split
  · exact ⟨rfl, ⟨bridge, passed, rfl, h⟩, rfl⟩
  · exact ⟨rfl, ⟨bridge, passed, rfl, h⟩, rfl⟩

theorem Renumbered.configure (h : Renumbered f c c') (source : Source) (now : Moment) (s : σ) :
    Agrees (Renumbered f) (c.configure source now s) (c'.configure source now s) := by
  obtain ⟨bridge, passed, rfl, h⟩ := h
  unfold Controller.configure
  dsimp only
  split
  · exact ⟨rfl, ⟨bridge, passed, rfl, h⟩, rfl⟩
  · exact ⟨rfl, ⟨bridge, passed, rfl, h⟩, rfl⟩

end Snapshots

/-! ## Sessions -/

theorem channel_subscribe (c : Controller) : c.subscribe.2.channel = c.subscribe.1.1 := by
  unfold Controller.subscribe
  split <;> rfl

section Host

variable [CaptureHost σ]

theorem Renumbered.start (h : Renumbered f c c') (device : Nat) (now : Moment) (s : σ) :
    Agrees (Renumbered f) (c.start device now s) (c'.start device now s) := by
  obtain ⟨hnumber, hsub⟩ := (h.move .starting (some device) none).subscribe
  have hchannel := channel_subscribe (c.move .starting (some device) none)
  unfold Controller.start
  rw [h.status_eq]
  split
  · dsimp only
    generalize (c.move .starting (some device) none).subscribe = p at hnumber hsub hchannel ⊢
    generalize (c'.move .starting (some device) none).subscribe = q at hnumber hsub ⊢
    obtain ⟨⟨channel, queue⟩, c⟩ := p
    obtain ⟨⟨channel', queue'⟩, c'⟩ := q
    obtain ⟨rfl, rfl⟩ := Prod.mk.inj hnumber
    obtain rfl : c.channel = channel' := hchannel
    obtain ⟨bridge, passed, rfl, hb⟩ := hsub
    obtain ⟨outcome, b, b', s', hs, hs', hb'⟩ :=
      (Bridge.agrees_start hb c.cfg.capture device c.channel s).exists_eq
    dsimp only
    rw [hs, hs']
    dsimp only
    split
    · exact ⟨rfl, ⟨b', _, rfl, hb'⟩, rfl⟩
    · exact ⟨rfl, ⟨_, _, rfl, hb'.modifyChannel fun _ _ _ _ hp => hp.modify queue _⟩, rfl⟩
  · exact ⟨rfl, h, rfl⟩

variable [FeedHost σ]

theorem Renumbered.finish (h : Renumbered f c c') (r : Running) (now : Moment) (s : σ) :
    Renumbered f (c.finish r now s).1 (c'.finish (r.renumber f) now s).1 ∧
      (c'.finish (r.renumber f) now s).2 = (c.finish r now s).2 := by
  have hstopping : Renumbered f (({ c with running? := none } : Controller).move .stopping
      c.status.device? none) (({ c' with running? := none } : Controller).move .stopping
        c'.status.device? none) := by
    obtain ⟨bridge, passed, rfl, h⟩ := h
    exact ⟨bridge, _, rfl, h⟩
  have hrenewed := hstopping.renew r
  unfold Controller.finish
  dsimp only
  generalize Controller.renew (Controller.move { c with running? := none } _ _ _) r = c₁
    at hrenewed ⊢
  generalize Controller.renew (Controller.move { c' with running? := none } _ _ _) _ = c₁'
    at hrenewed ⊢
  obtain ⟨bridge, passed, rfl, hb⟩ := hrenewed
  obtain ⟨outcome, b, b', s', hs, hs', hb'⟩ := (Bridge.agrees_stop hb c₁.cfg.capture s).exists_eq
  dsimp only
  rw [hs, hs']
  have hstopped : Renumbered f { c₁ with bridge := b } { c₁ with
      bridge := b', passed, running? := c₁.running?.map (Running.renumber f) } :=
    ⟨b', passed, rfl, hb'⟩
  have hdrained := hstopped.drain r
  dsimp only
  generalize Controller.drain { c₁ with bridge := b } r = c₂ at hdrained ⊢
  generalize Controller.drain _ (r.renumber f) = c₂' at hdrained ⊢
  obtain ⟨bridge, passed, rfl, hb⟩ := hdrained
  exact ⟨⟨_, _, rfl, hb.modifyChannel fun _ _ _ _ hp => hp.modify r.queue _⟩, rfl⟩

theorem Renumbered.stop (h : Renumbered f c c') (only? : Option Nat) (now : Moment) (s : σ) :
    Agrees (Renumbered f) (c.stop only? now s) (c'.stop only? now s) := by
  unfold Controller.stop
  rw [h.running?_eq, h.status_eq]
  cases c.running? with
  | none => exact ⟨rfl, h, rfl⟩
  | some r =>
      dsimp only [Option.map_some]
      change Agrees _ _ (if only?.all (· == r.id) then _ else _)
      split
      · obtain ⟨hfinished, hhost⟩ := h.finish r now s
        exact ⟨rfl, hfinished, hhost⟩
      · exact ⟨rfl, h, rfl⟩

theorem Renumbered.depart (h : Renumbered f c c') (now : Moment) (s : σ) :
    Renumbered f (c.depart now s).1 (c'.depart now s).1 ∧
      (c'.depart now s).2 = (c.depart now s).2 := by
  have hrest : ∀ departures : List Nat,
      Renumbered f { c with departures } { c' with departures } := by
    intro departures
    obtain ⟨bridge, passed, rfl, hb⟩ := h
    exact ⟨bridge, passed, rfl, hb⟩
  unfold Controller.depart
  rw [h.departures_eq]
  split
  · exact ⟨h, rfl⟩
  · rename_i id departures _
    have hstop := (hrest departures).stop (some id) now s
    exact ⟨hstop.related, hstop.rest_eq⟩

theorem Renumbered.close (h : Renumbered f c c') (now : Moment) (s : σ) :
    Agrees (Renumbered f) (c.close now s) (c'.close now s) := by
  obtain ⟨state, c₁, c₁', s₁, hs, hs', h₁⟩ := (h.stop none now s).exists_eq
  unfold Controller.close
  rw [hs, hs']
  dsimp only
  split
  · exact ⟨rfl, h₁, rfl⟩
  · obtain ⟨bridge, passed, rfl, hb⟩ := h₁
    exact ⟨rfl, ⟨_, passed, rfl, hb.modifyChannel fun _ _ _ _ hp => hp.close⟩, rfl⟩

end Host

/-! ## Steps and runs -/

end Controller

/-- What can be seen of a step: what is answered, and the state that it leaves the host in. -/
inductive Seen (σ : Type) where
  | nothing
  | state (answer : Except Failure State) (host : σ)
  | outcome (answer : Except Failure Unit) (host : σ)
  | left (host : σ)
  | subscribed (channel queue : Nat)
  | listens (queue : Nat)
  | packets (result? : Option (Poll PacketRecord))
  | snapshots (result : Poll Snapshot)

/-- The same, where queues have other numbers. -/
def Seen.renumber {σ : Type} (f : Nat → Nat → Nat) : Seen σ → Seen σ
  | .subscribed channel queue => .subscribed channel (f channel queue)
  | seen => seen

namespace Controller

variable {σ : Type} [FeedHost σ] [CaptureHost σ] {f : Nat → Nat → Nat} {c c' : Controller}

def seen (c : Controller) (x : Step σ) : Seen σ :=
  match x.action with
  | .start device =>
      let (answer, _, host) := c.start device x.now x.host
      .state answer host
  | .stop only? =>
      let (state, _, host) := c.stop only? x.now x.host
      .state (.ok state) host
  | .depart => .left (c.depart x.now x.host).2
  | .close =>
      let (answer, _, host) := c.close x.now x.host
      .outcome answer host
  | .clear =>
      let (answer, _, host) := c.clear x.now x.host
      .outcome answer host
  | .configure source =>
      let (answer, _, host) := c.configure source x.now x.host
      .outcome answer host
  | .tick => .left (c.tick x.now x.host).2
  | .feed | .deliver _ _ | .disconnect _ => .nothing
  | .subscribe => .subscribed c.subscribe.1.1 c.subscribe.1.2
  | .statistics => .listens c.statistics.1
  | .onPackets channel action =>
      .packets ((c.bridge.channel? channel).map (·.outcome action))
  | .onSnapshots action => .snapshots (c.publisher.channel.outcome action)

/-- A step about the same queues keeps the controllers the same. -/
theorem Renumbered.step (h : Renumbered f c c') (x : Step σ) :
    Renumbered f (c.step x).2 (c'.step (x.renumber f)).2 := by
  obtain ⟨action, awaited, now, host⟩ := x
  change Renumbered f (c.act now host action).2 (c'.act now host (action.renumber f)).2
  cases action with
  | start device => exact (h.start device now host).related
  | stop only? => exact (h.stop only? now host).related
  | depart => exact (h.depart now host).1
  | close => exact (h.close now host).related
  | clear => exact (h.clear now host).related
  | configure source => exact (h.configure source now host).related
  | tick => exact (h.tick now host).1
  | feed => exact h.feed
  | subscribe => exact h.subscribe.2
  | deliver worker script =>
      obtain ⟨bridge, passed, rfl, h⟩ := h
      exact ⟨_, passed, rfl, h.deliver worker script⟩
  | disconnect worker =>
      obtain ⟨bridge, passed, rfl, h⟩ := h
      exact ⟨_, passed, rfl, h.disconnect worker⟩
  | onPackets channel action =>
      obtain ⟨bridge, passed, rfl, h⟩ := h
      exact ⟨_, passed, rfl, h.modifyChannel fun _ _ _ _ hp => hp.act action⟩
  | statistics | onSnapshots =>
      obtain ⟨bridge, passed, rfl, h⟩ := h
      exact ⟨bridge, passed, rfl, h⟩

/-- Nothing but the number of a queue can be seen to be different. -/
theorem Renumbered.seen_eq (h : Renumbered f c c') (x : Step σ) :
    c'.seen (x.renumber f) = (c.seen x).renumber f := by
  obtain ⟨action, awaited, now, host⟩ := x
  cases action with
  | start device =>
      have hs := h.start device now host
      exact congrArg₂ Seen.state hs.result_eq hs.rest_eq
  | stop only? =>
      have hs := h.stop only? now host
      exact congrArg₂ (fun state => Seen.state (.ok state)) hs.result_eq hs.rest_eq
  | depart => exact congrArg Seen.left (h.depart now host).2
  | close =>
      have hc := h.close now host
      exact congrArg₂ Seen.outcome hc.result_eq hc.rest_eq
  | clear =>
      have hc := h.clear now host
      exact congrArg₂ Seen.outcome hc.result_eq hc.rest_eq
  | configure source =>
      have hc := h.configure source now host
      exact congrArg₂ Seen.outcome hc.result_eq hc.rest_eq
  | tick => exact congrArg Seen.left (h.tick now host).2
  | subscribe =>
      change Seen.subscribed c'.subscribe.1.1 c'.subscribe.1.2 = _
      rw [h.subscribe.1]
      rfl
  | onPackets channel action =>
      obtain ⟨bridge, passed, rfl, h⟩ := h
      have hr := h.rel channel
      change Seen.packets ((bridge.channel? channel).map _) =
        Seen.packets ((c.bridge.channel? channel).map _)
      generalize c.bridge.channel? channel = o at hr ⊢
      generalize bridge.channel? channel = o' at hr ⊢
      cases hr with
      | none => rfl
      | some hp => exact congrArg (Seen.packets ∘ some) (hp.outcome_eq action)
  | statistics => exact congrArg (fun p => Seen.listens p.subscribe.1) h.publisher_eq
  | onSnapshots action =>
      exact congrArg (fun p => Seen.snapshots (p.channel.outcome action)) h.publisher_eq
  | feed | deliver | disconnect => rfl

theorem Renumbered.after (h : Renumbered f c c') (xs : List (Step σ)) :
    Renumbered f (c.after xs) (c'.after (xs.map (Step.renumber f))) := by
  induction xs generalizing c c' with
  | nil => exact h
  | cons x xs ih => exact ih (h.step x)

theorem Renumbered.gather_seen (h : Renumbered f c c') (xs : List (Step σ)) :
    c'.gather (fun c x => [c.seen x]) (xs.map (Step.renumber f)) =
      (c.gather (fun c x => [c.seen x]) xs).map (Seen.renumber f) := by
  induction xs generalizing c c' with
  | nil => rfl
  | cons x xs ih =>
      rw [List.map_cons, gather, gather, List.map_append, ih (h.step x), h.seen_eq x]
      rfl

end Controller

end PacketMeter.Session
