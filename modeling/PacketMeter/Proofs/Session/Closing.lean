import PacketMeter.Proofs.Session.Subscribers
import PacketMeter.Proofs.Stats.Publishing

/-!
# Streams of a closed controller

Closing a controller ends its session, closes the engine, and then closes the channel for the next
session and the channel of the snapshots.  From then on every stream is at its end once it has
handed out what its queue holds, and nothing can change this but the start of another session.

An engine that cannot be closed keeps the two channels from being closed.  The session is ended
all the same, and its channel is closed.  All who read snapshots or wait for the next session
go on waiting.
-/

namespace PacketMeter

namespace Channel

variable {α : Type} {ch : Channel α} {x : Action α}

/-- Where nothing is accepted, the items of a queue are handed out or stay. -/
theorem itemsAt_eq_append (hx : ch.accepted x = []) (i : Nat) :
    ch.itemsAt i = ch.handed i x ++ (ch.act x).itemsAt i := by
  cases hq : ch.queue? i with
  | none =>
      have hi : ch.itemsAt i = [] := by rw [itemsAt, hq]
      rw [itemsAt_act_of_nil hx hi, handed_of_none hq, hi]
      rfl
  | some q =>
      obtain ⟨q', hq', hc⟩ := change_act hq x
      rw [itemsAt_of_some hq, itemsAt_of_some hq']
      exact (hc.of_sent_nil hx).1

theorem itemsAt_eq_append_of_closed (hc : ch.closed = true) (i : Nat) (xs : List (Action α)) :
    ch.itemsAt i = ch.handedAll i xs ++ (ch.actAll xs).itemsAt i := by
  induction xs generalizing ch with
  | nil => rfl
  | cons x xs ih =>
      have hc' : (ch.act x).closed = true := by rw [closed_act, hc, Bool.true_or]
      rw [itemsAt_eq_append (accepted_of_closed hc x), ih hc', handedAll, actAll_cons,
        List.append_assoc]

/-- What a channel does by itself and new queues hand nothing out. -/
theorem handed_of_not_isHolders (hx : x.isHolders = false) (ch : Channel α) (i : Nat) :
    ch.handed i x = [] := by
  cases x with
  | send | close | subscribe => rfl
  | _ => cases hx

theorem isFree_of_not_isHolders (hx : x.isHolders = false) : x.isFree = true := by
  cases x with
  | send | close | subscribe => rfl
  | _ => cases hx

theorem handedAll_of_not_isHolders {xs : List (Action α)} (hx : ∀ x ∈ xs, x.isHolders = false)
    (ch : Channel α) (i : Nat) : ch.handedAll i xs = [] := by
  induction xs generalizing ch with
  | nil => rfl
  | cons x xs ih =>
      rw [handedAll, handed_of_not_isHolders (hx x List.mem_cons_self), List.nil_append]
      exact ih (fun y hy => hx y (List.mem_cons_of_mem x hy)) _

end Channel

/-- A publication sends a snapshot or nothing. -/
theorem Stats.Publisher.exists_sends_publish {α : Type} (p : Stats.Publisher α)
    (made : Except Failure α) : ∃ snapshots : List α,
      (p.publish made).2.channel = p.channel.actAll (snapshots.map .send) := by
  cases made with
  | error f => exact ⟨[], rfl⟩
  | ok snapshot => exact ⟨[snapshot], p.channel_publish_ok snapshot⟩

namespace Session

open PacketMeter.Capture (Bridge Packets)
open PacketMeter.Stats

/-- Whether an action may do more to the channel of the snapshots than publish. -/
def Action.isSnapshots : Action → Bool
  | .close | .statistics | .onSnapshots _ => true
  | _ => false

namespace Controller

variable {σ : Type} [FeedHost σ] [CaptureHost σ] {c : Controller} {x : Step σ}

/-! ## What goes through the channel of the snapshots -/

/-- The snapshots that subscribers are handed out of a queue in a step. -/
def shownAt (queue : Nat) (c : Controller) (x : Step σ) : List Snapshot :=
  match x.action with
  | .onSnapshots action => c.publisher.channel.handed queue action
  | _ => []

/-- Whether a step is fair, and those who hold queues of snapshots act on what they hold. -/
def Orderly (c : Controller) (x : Step σ) : Prop :=
  c.Fair x ∧ ∀ a, x.action = .onSnapshots a →
    a.isHolders = true ∧ c.publisher.channel.Allowed a

/-- The actions that the channel of the snapshots goes through in a step. -/
structure Publishes (c : Controller) (x : Step σ) (xs : List (Channel.Action Snapshot)) :
    Prop where
  channel_eq : (c.step x).2.publisher.channel = c.publisher.channel.actAll xs
  allowed : c.publisher.channel.AllowedAll xs
  shown_eq : ∀ q, c.publisher.channel.handedAll q xs = shownAt q c x
  open_of : ¬ c.Closes x → xs.any Channel.Action.closes = false

/-- A step in which the controller alone acts on the channel. -/
theorem Publishes.of_own {xs : List (Channel.Action Snapshot)}
    (hc : (c.step x).2.publisher.channel = c.publisher.channel.actAll xs)
    (hx : ∀ a ∈ xs, a.isHolders = false) (hs : ∀ a, x.action ≠ .onSnapshots a)
    (ho : ¬ c.Closes x → xs.any Channel.Action.closes = false) : Publishes c x xs where
  channel_eq := hc
  allowed := Channel.allowedAll_of_isFree (fun a ha => Channel.isFree_of_not_isHolders (hx a ha)) _
  shown_eq q := by
    rw [Channel.handedAll_of_not_isHolders hx, shownAt]
    split
    · rename_i a ha
      exact absurd ha (hs a)
    · rfl
  open_of := ho

theorem not_isHolders_of_mem_sends {snapshots : List Snapshot} :
    ∀ a ∈ (snapshots.map .send : List (Channel.Action Snapshot)), a.isHolders = false := by
  intro a ha
  obtain ⟨snapshot, -, rfl⟩ := List.mem_map.1 ha
  rfl

theorem any_closes_sends (snapshots : List Snapshot) :
    (snapshots.map .send : List (Channel.Action Snapshot)).any Channel.Action.closes = false := by
  rw [List.any_eq_false]
  intro a ha
  obtain ⟨snapshot, -, rfl⟩ := List.mem_map.1 ha
  exact Bool.false_ne_true

/-- A step that publishes some snapshots. -/
theorem Publishes.of_sends {snapshots : List Snapshot}
    (hc : (c.step x).2.publisher.channel = c.publisher.channel.actAll (snapshots.map .send))
    (hs : ∀ a, x.action ≠ .onSnapshots a) : Publishes c x (snapshots.map .send) :=
  .of_own hc not_isHolders_of_mem_sends hs fun _ => any_closes_sends snapshots

omit [FeedHost σ] [CaptureHost σ] in
theorem publisher_feed (c : Controller) : c.feed.publisher = c.publisher := by
  unfold feed
  split
  · rfl
  · split
    · split
      · rfl
      · dsimp only
        split <;> rfl
    · rfl

section Published

omit [CaptureHost σ]

/-- The snapshots that are published on the way from one controller to another. -/
def Publishing (c c' : Controller) : Prop :=
  ∃ snapshots : List Snapshot,
    c'.publisher.channel = c.publisher.channel.actAll (snapshots.map .send)

omit [FeedHost σ] in
theorem publishing_of_eq {c' : Controller} (h : c'.publisher = c.publisher) : Publishing c c' :=
  ⟨[], by rw [h]; rfl⟩

theorem publishing_publish (c : Controller) (now : Moment) (s : σ) :
    Publishing c (c.publish now s).1 := c.publisher.exists_sends_publish _

theorem publishing_tick (c : Controller) (now : Moment) (s : σ) :
    Publishing c (c.tick now s).1 := by
  unfold tick
  split
  · exact publishing_publish c now s
  · exact publishing_of_eq rfl

theorem publishing_clear (c : Controller) (now : Moment) (s : σ) :
    Publishing c (c.clear now s).2.1 := by
  unfold clear
  dsimp only
  split
  · exact publishing_of_eq rfl
  · exact c.publisher.exists_sends_publish _

theorem publishing_configure (c : Controller) (source : Source) (now : Moment) (s : σ) :
    Publishing c (c.configure source now s).2.1 := by
  unfold configure
  dsimp only
  split
  · exact publishing_of_eq rfl
  · exact c.publisher.exists_sends_publish _

end Published

theorem publishing_stop (hn : c.Numbered) (only? : Option Nat) (now : Moment) (s : σ) :
    Publishing c (c.stop only? now s).2.1 := by
  rcases stop_cases c only? now s with ⟨he, -⟩ | ⟨r, hr, -, he⟩
  · exact publishing_of_eq (congrArg publisher he)
  · obtain ⟨-, s', hp⟩ := published_finish hn hr now s
    rw [he, Publishing, hp]
    exact c.publisher.exists_sends_publish _

theorem publishing_depart (hn : c.Numbered) (now : Moment) (s : σ) :
    Publishing c (c.depart now s).1 := by
  rw [depart]
  split
  · exact publishing_of_eq rfl
  · exact publishing_stop (hn.with_departures _) _ now s

omit [FeedHost σ] in
theorem publishing_start (hn : c.Numbered) (device : Nat) (now : Moment) (s : σ) :
    Publishing c (c.start device now s).2.1 := by
  rcases hn.start_cases device now s with he | ⟨packets, -, -, he | he⟩
  · rw [he]
    exact publishing_of_eq rfl
  · rw [he]
    exact publishing_of_eq rfl
  · rw [he]
    exact publishing_of_eq rfl

theorem publishing_act (hn : c.Numbered) {a : Action} (ha : a.isSnapshots = false)
    (now : Moment) (s : σ) : Publishing c (c.act now s a).2 := by
  cases a with
  | close | statistics | onSnapshots => cases ha
  | start device => exact publishing_start hn device now s
  | stop only? => exact publishing_stop hn only? now s
  | depart => exact publishing_depart hn now s
  | clear => exact publishing_clear c now s
  | configure source => exact publishing_configure c source now s
  | tick => exact publishing_tick c now s
  | feed => exact publishing_of_eq (publisher_feed c)
  | subscribe =>
      obtain ⟨packets, hp⟩ := hn.exists_channel
      rw [act, subscribe_eq hp]
      exact publishing_of_eq rfl
  | deliver | disconnect | onPackets => exact publishing_of_eq rfl

/-- The last thing that closing a controller does to the snapshots is to close their channel, and
it does so where it works. -/
theorem exists_publishes_close (hn : c.Numbered) (hx : x.action = .close) :
    ∃ xs, Publishes c x xs := by
  obtain ⟨snapshots, hs⟩ := publishing_stop hn none x.now x.host
  have hstep : (c.step x).2 = (c.close x.now x.host).2.1 := by
    rw [step, hx]
    rfl
  have hother : ∀ a, x.action ≠ .onSnapshots a := by
    intro a
    rw [hx]
    exact Action.noConfusion
  have hcl : (c.close x.now x.host).1 = .ok () → c.Closes x := fun ho => ⟨hx, ho⟩
  rw [close] at hstep hcl
  dsimp only at hstep hcl
  split at hstep
  · exact ⟨_, .of_sends ((congrArg (·.publisher.channel) hstep).trans hs) hother⟩
  · rename_i ho
    rw [ho] at hcl
    refine ⟨snapshots.map .send ++ [.close], .of_own ?_ ?_ hother fun hn => absurd (hcl rfl) hn⟩
    · rw [hstep, Channel.actAll_append]
      exact congrArg Channel.close hs
    · rintro a ha
      rcases List.mem_append.1 ha with ha | ha
      · exact not_isHolders_of_mem_sends a ha
      · rw [List.mem_singleton.1 ha]
        rfl

/-- In an orderly step the channel of the snapshots goes through some actions. -/
theorem exists_publishes (hn : c.Numbered) (hx : c.Orderly x) : ∃ xs, Publishes c x xs := by
  have hstep : (c.step x).2 = (c.act x.now x.host x.action).2 := rfl
  have hsends : x.action.isSnapshots = false → ∃ xs, Publishes c x xs := by
    intro ha
    obtain ⟨snapshots, hc⟩ := publishing_act hn ha x.now x.host
    refine ⟨_, .of_sends hc fun a he => ?_⟩
    rw [he] at ha
    cases ha
  cases ha : x.action with
  | close => exact exists_publishes_close hn ha
  | statistics =>
      refine ⟨[.subscribe], .of_own ?_ (List.forall_mem_singleton.2 rfl) (by simp [ha]) fun _ => rfl⟩
      rw [hstep, ha]
      rfl
  | onSnapshots action =>
      obtain ⟨hholders, hallowed⟩ := hx.2 action ha
      refine ⟨[action], ?_, ⟨hallowed, trivial⟩, fun q => ?_, fun _ => ?_⟩
      · rw [hstep, ha]
        rfl
      · rw [shownAt, ha, Channel.handedAll, Channel.handedAll, List.append_nil]
      · rw [List.any_cons, Channel.closes_of_isHolders hholders]
        rfl
  | _ => exact hsends (by rw [ha]; rfl)

/-! ## Channels that are closed -/

/-- All that the runs of orderly steps keep. -/
structure Ordered (c : Controller) : Prop where
  numbered : c.Numbered
  guarded : c.Guarded
  isSealed : c.Sealed
  wellFormed : c.publisher.channel.WellFormed

omit [FeedHost σ] [CaptureHost σ] in
theorem ordered_make (cfg : SessionConfig) (feed? : Option Nat) : (make cfg feed?).Ordered where
  numbered := numbered_make cfg feed?
  guarded := guarded_make cfg feed?
  isSealed := sealed_make cfg feed?
  wellFormed := Channel.wellFormed_make _ _

theorem Ordered.step (h : c.Ordered) (hx : c.Orderly x) : (c.step x).2.Ordered where
  numbered := h.numbered.step x
  guarded := h.guarded.step h.numbered hx.1
  isSealed := h.isSealed.step h.numbered h.guarded hx.1
  wellFormed := by
    obtain ⟨xs, hp⟩ := exists_publishes h.numbered hx
    rw [hp.channel_eq]
    exact h.wellFormed.actAll hp.allowed

theorem Ordered.after (h : c.Ordered) {steps : List (Step σ)} (hx : c.Throughout Orderly steps) :
    (c.after steps).Ordered := by
  induction steps generalizing c with
  | nil => exact h
  | cons x steps ih => exact ih (h.step hx.1) hx.2

/-- Who holds a queue of a channel is handed what it has left, and is then at the end. -/
def PacketsEnd (c : Controller) (i : Nat) : Prop :=
  ∀ packets queue q, c.bridge.channel? i = some packets → packets.queue? queue = some q →
    0 < q.holders → packets.Drains queue q

/-- Who holds a queue of snapshots is handed what it has left, and is then at the end. -/
def SnapshotsEnd (c : Controller) : Prop :=
  ∀ queue q, c.publisher.channel.queue? queue = some q → 0 < q.holders →
    c.publisher.channel.Drains queue q

omit [FeedHost σ] [CaptureHost σ] in
theorem Ordered.packetsEnd (h : c.Ordered) {i : Nat}
    (hc : ∀ packets, c.bridge.channel? i = some packets → packets.closed = true) :
    c.PacketsEnd i :=
  fun packets _ _ hp hq hpos => (h.guarded.wellFormed i packets hp).drains (hc packets hp) hq hpos

omit [FeedHost σ] [CaptureHost σ] in
theorem Ordered.snapshotsEnd (h : c.Ordered) (hc : c.publisher.channel.closed = true) :
    c.SnapshotsEnd := fun _ _ hq hpos => h.wellFormed.drains hc hq hpos

/-- No session runs, and all channels are closed. -/
structure Finished (c : Controller) : Prop where
  running_eq : c.running? = none
  packets : ∀ i packets, c.bridge.channel? i = some packets → packets.closed = true
  snapshots : c.publisher.channel.closed = true

/-- No step of a run is a start. -/
def StartsNothing (steps : List (Step σ)) : Prop :=
  ∀ x ∈ steps, ∀ device, x.action ≠ .start device

/-- Without a start no session begins. -/
theorem Numbered.still_of_idle (hn : c.Numbered) (hr : c.running? = none)
    (hs : ∀ device, x.action ≠ .start device) : Still c (c.step x).2 := by
  cases moves_step hn x with
  | still h => exact h
  | opens device _ ha => exact absurd ha (hs device)
  | ends r _ he => exact nomatch hr.symm.trans he.running_eq

theorem Numbered.idle_after (hn : c.Numbered) (hr : c.running? = none) {steps : List (Step σ)}
    (hs : StartsNothing steps) : (c.after steps).running? = none := by
  induction steps generalizing c with
  | nil => exact hr
  | cons x steps ih =>
      have hstill := hn.still_of_idle hr (hs x List.mem_cons_self)
      exact ih (hn.step x) (hstill.running?_eq_none_iff.2 hr) fun y hy =>
        hs y (List.mem_cons_of_mem x hy)

omit [FeedHost σ] [CaptureHost σ] in
theorem Numbered.status_eq_idle (hn : c.Numbered) (hr : c.running? = none) : c.status = .idle := by
  obtain ⟨o?, ho⟩ := hn.holds
  have hnone := ho.running_eq
  rw [hr] at hnone
  obtain rfl := Option.isNone_iff_eq_none.1 (Option.isSome_eq_false_iff.1 hnone.symm)
  exact ho.status_eq

/-- What is queued when everything is closed is handed out step by step. -/
theorem Finished.step (h : c.Finished) (ho : c.Ordered) (hx : c.Orderly x)
    (hs : ∀ device, x.action ≠ .start device) :
    (c.step x).2.Finished ∧
      (∀ i packets, c.bridge.channel? i = some packets → ∃ packets',
        (c.step x).2.bridge.channel? i = some packets' ∧ ∀ queue,
          packets.itemsAt queue = handedAt i queue c x ++ packets'.itemsAt queue) ∧
      ∀ queue, c.publisher.channel.itemsAt queue =
        shownAt queue c x ++ (c.step x).2.publisher.channel.itemsAt queue := by
  have hstill := ho.numbered.still_of_idle h.running_eq hs
  obtain ⟨xs, hp⟩ := exists_publishes ho.numbered hx
  refine ⟨⟨hstill.running?_eq_none_iff.2 h.running_eq, ?_, ?_⟩, ?_, ?_⟩
  · intro i packets' hp'
    obtain ⟨packets, hpackets⟩ : ∃ packets, c.bridge.channel? i = some packets := by
      refine ⟨_, List.getElem?_eq_getElem ?_⟩
      rw [← hstill.alike.length_eq]
      exact (List.getElem?_eq_some_iff.1 hp').1
    obtain ⟨ys, hc⟩ := exists_conducts ho.numbered ho.guarded hx.1 hpackets
    obtain rfl := Option.some.inj (hc.channel_eq.symm.trans hp')
    rw [Channel.closed_actAll, h.packets i packets hpackets, Bool.true_or]
  · rw [hp.channel_eq, Channel.closed_actAll, h.snapshots, Bool.true_or]
  · intro i packets hpackets
    obtain ⟨ys, hc⟩ := exists_conducts ho.numbered ho.guarded hx.1 hpackets
    refine ⟨_, hc.channel_eq, fun queue => ?_⟩
    rw [← hc.handed_eq queue fun r hr => nomatch h.running_eq.symm.trans hr]
    exact Channel.itemsAt_eq_append_of_closed (h.packets i packets hpackets) queue ys
  · intro queue
    rw [← hp.shown_eq, hp.channel_eq]
    exact Channel.itemsAt_eq_append_of_closed h.snapshots queue xs

theorem Finished.after (h : c.Finished) (ho : c.Ordered) {steps : List (Step σ)}
    (hx : c.Throughout Orderly steps) (hs : StartsNothing steps) :
    (c.after steps).Finished ∧
      (∀ i packets, c.bridge.channel? i = some packets → ∃ packets',
        (c.after steps).bridge.channel? i = some packets' ∧ ∀ queue,
          packets.itemsAt queue = c.gather (handedAt i queue) steps ++ packets'.itemsAt queue) ∧
      ∀ queue, c.publisher.channel.itemsAt queue =
        c.gather (shownAt queue) steps ++ (c.after steps).publisher.channel.itemsAt queue := by
  induction steps generalizing c with
  | nil => exact ⟨h, fun i packets hp => ⟨packets, hp, fun _ => rfl⟩, fun _ => rfl⟩
  | cons x steps ih =>
      obtain ⟨h', hpackets, hsnapshots⟩ := h.step ho hx.1 (hs x List.mem_cons_self)
      obtain ⟨hlast, hpackets', hsnapshots'⟩ :=
        ih h' (ho.step hx.1) hx.2 fun y hy => hs y (List.mem_cons_of_mem x hy)
      refine ⟨hlast, fun i packets hp => ?_, fun queue => ?_⟩
      · obtain ⟨packets', hp', hi⟩ := hpackets i packets hp
        obtain ⟨packets'', hp'', hi'⟩ := hpackets' i packets' hp'
        refine ⟨packets'', hp'', fun queue => ?_⟩
        rw [hi, hi', gather, List.append_assoc]
      · rw [hsnapshots, hsnapshots', gather, List.append_assoc, after_cons]

/-! ## Closing -/

theorem close_fst (c : Controller) (now : Moment) (s : σ) :
    (c.close now s).1 = (perform HostCall.close (c.stop none now s).2.2).1.result := by
  rw [close]
  dsimp only
  split
  · rename_i h
    exact h.symm
  · rename_i h
    exact h.symm

theorem close_of_error {f : Failure} {now : Moment} {s : σ} (h : (c.close now s).1 = .error f) :
    (c.close now s).2.1 = (c.stop none now s).2.1 := by
  rw [close] at h ⊢
  dsimp only at h ⊢
  split at h
  · rfl
  · cases h

theorem close_of_ok {now : Moment} {s : σ} (h : (c.close now s).1 = .ok ()) :
    (c.close now s).2.1 =
      { (c.stop none now s).2.1.modifyChannel Channel.close with
        publisher := (c.stop none now s).2.1.publisher.close } := by
  rw [close] at h ⊢
  dsimp only at h ⊢
  split at h
  · cases h
  · rfl

theorem Numbered.running?_stop (hn : c.Numbered) (now : Moment) (s : σ) :
    (c.stop none now s).2.1.running? = none := by
  rcases stop_cases c none now s with ⟨he, hr⟩ | ⟨r, hr, -, he⟩
  · rw [he, hr rfl]
  · rw [he, (ended_finish hn hr now s).gone]

theorem Numbered.running?_close (hn : c.Numbered) (now : Moment) (s : σ) :
    (c.close now s).2.1.running? = none := by
  rw [← hn.running?_stop now s]
  cases h : (c.close now s).1 with
  | error f => rw [close_of_error h]
  | ok => rw [close_of_ok h]; rfl

/-- Where the engine is closed, so is everything else. -/
theorem Ordered.finished_close (h : c.Ordered) {now : Moment} {s : σ}
    (ho : (c.close now s).1 = .ok ()) (h' : (c.close now s).2.1.Ordered) :
    (c.close now s).2.1.Finished where
  running_eq := h.numbered.running?_close now s
  packets i packets hp := by
    have hle : i ≤ (c.close now s).2.1.channel := by
      have hlt := (List.getElem?_eq_some_iff.1 hp).1
      rw [h'.numbered.length_eq] at hlt
      exact Nat.le_of_lt_succ hlt
    rcases Nat.lt_or_eq_of_le hle with hlt | rfl
    · exact h'.isSealed i packets hlt hp
    · rw [close_of_ok ho] at hp
      have hclosed : ((c.stop none now s).2.1.bridge.modifyChannel
          (c.stop none now s).2.1.channel Channel.close).channel?
            (c.stop none now s).2.1.channel = some packets := hp
      rw [Bridge.channel?_modifyChannel] at hclosed
      obtain ⟨packets', -, rfl⟩ := Option.map_eq_some_iff.1 hclosed
      rw [if_pos rfl, Channel.closed_close]
  snapshots := by rw [close_of_ok ho]; rfl

/-- The channel for the next session is a new one where a session has been ended. -/
theorem Numbered.open_stop (hn : c.Numbered) (hr : c.running?.isSome) (now : Moment) (s : σ) :
    ∃ packets, (c.stop none now s).2.1.bridge.channel? (c.stop none now s).2.1.channel =
      some packets ∧ packets.closed = false := by
  rcases stop_cases c none now s with ⟨-, hnone⟩ | ⟨r, hr', -, he⟩
  · rw [hnone rfl] at hr
    cases hr
  · rw [he]
    exact ⟨_, fresh_finish hn hr' now s, rfl⟩

/-- Closing a controller gives what closing the engine gives, and no session runs afterwards until
one is started.  The streams of all sessions that there have been end, whatever happens.

If the engine is closed, all streams end, also those that are subscribed afterwards, and until a
session is started they hand out only what was queued before.  If it cannot be closed, nothing has
been done but to end the session that ran, and the channel of the snapshots is open if it was.  The
channel for the next session is open then, or is that which was there before. -/
theorem streams_end_with_engine (cfg : SessionConfig) (feed? : Option Nat)
    {before : List (Step σ)} (h : (make cfg feed?).Throughout Orderly before) (now : Moment)
    (s : σ) :
    let c₀ := (make cfg feed?).after before
    let closing := (perform HostCall.close (c₀.stop none now s).2.2).1.result
    let c := (c₀.close now s).2.1
    (c₀.close now s).1 = closing ∧
      (∀ later : List (Step σ), StartsNothing later →
        (c.after later).status = .idle ∧ (c.after later).running? = none) ∧
      (∀ later : List (Step σ), c.Throughout Orderly later →
        ∀ i < c.channel, (c.after later).PacketsEnd i) ∧
      (closing = .ok () → ∀ later : List (Step σ), c.Throughout Orderly later →
        StartsNothing later →
          ((c.after later).SnapshotsEnd ∧ ∀ i, (c.after later).PacketsEnd i) ∧
          (∀ i packets, c.bridge.channel? i = some packets → ∃ packets',
            (c.after later).bridge.channel? i = some packets' ∧ ∀ queue,
              packets.itemsAt queue =
                c.gather (handedAt i queue) later ++ packets'.itemsAt queue) ∧
          ∀ queue, c.publisher.channel.itemsAt queue =
            c.gather (shownAt queue) later ++ (c.after later).publisher.channel.itemsAt queue) ∧
      ∀ f, closing = .error f → c = (c₀.stop none now s).2.1 ∧
        c.publisher.channel.closed = c₀.publisher.channel.closed ∧
        (c₀.running? = none → c = c₀) ∧
        (c₀.running?.isSome → ∃ packets, c.bridge.channel? c.channel = some packets ∧
          packets.closed = false) := by
  intro c₀ closing c
  have h₀ : c₀.Ordered := (ordered_make cfg feed?).after h
  have horderly : c₀.Orderly (⟨.close, true, now, s⟩ : Step σ) := ⟨nofun, nofun⟩
  have hc : c.Ordered := h₀.step horderly
  have hidle : c.running? = none := h₀.numbered.running?_close now s
  refine ⟨close_fst c₀ now s, fun later hs => ?_, fun later hx i hi => ?_, fun ho later hx hs => ?_,
    fun f hf => ?_⟩
  · have hlater := hc.numbered.idle_after hidle hs
    exact ⟨(hc.numbered.after later).status_eq_idle hlater, hlater⟩
  · have hlater := hc.after hx
    refine hlater.packetsEnd fun packets hp => hlater.isSealed i packets ?_ hp
    exact hi.trans_le (hc.numbered.channel_le later)
  · have hfinished := h₀.finished_close ((close_fst c₀ now s).trans ho) hc
    obtain ⟨hlast, hpackets, hsnapshots⟩ := hfinished.after hc hx hs
    have hlater := hc.after hx
    exact ⟨⟨hlater.snapshotsEnd hlast.snapshots, fun i => hlater.packetsEnd (hlast.packets i)⟩,
      hpackets, hsnapshots⟩
  · have hstop : c = (c₀.stop none now s).2.1 := close_of_error ((close_fst c₀ now s).trans hf)
    refine ⟨hstop, ?_, fun hr => ?_, fun hr => ?_⟩
    · obtain ⟨snapshots, hp⟩ := publishing_stop h₀.numbered none now s
      rw [hstop, hp, Channel.closed_actAll, any_closes_sends, Bool.or_false]
    · rw [hstop, stop_of_not_running none now s hr]
    · rw [hstop]
      exact h₀.numbered.open_stop hr now s

/-- A host on which every call works but that to close the engine. -/
structure Unclosed where

instance : CaptureHost Unclosed where
  perform
    | .close, s => (.failed (.engineUnavailable "busy"), s)
    | call, s => ((perform call Willing.mk).1, s)

instance : FeedHost Unclosed where
  answer _ _ s := (.error .closed, s)

omit [FeedHost σ] [CaptureHost σ] in
theorem orderly_of_ne (hp : ∀ i a, x.action ≠ .onPackets i a)
    (hs : ∀ a, x.action ≠ .onSnapshots a) : c.Orderly x :=
  ⟨fun i a _ ha => absurd ha (hp i a), fun a ha => absurd ha (hs a)⟩

/-- Somebody reads the snapshots, a session runs, and somebody reads its packets. -/
def subscribed (host : σ) : List (Step σ) :=
  [⟨.statistics, true, default, host⟩, ⟨.start 3, true, default, host⟩,
    ⟨.subscribe, true, default, host⟩]

theorem orderly_subscribed (host : σ) : c.Throughout Orderly (subscribed host) :=
  ⟨orderly_of_ne nofun nofun, orderly_of_ne nofun nofun, orderly_of_ne nofun nofun, trivial⟩

/-- Two streams and the one of somebody who subscribes later end where the engine is closed.
Where it is not, the snapshots and the packets of the next session do not end. -/
theorem streams_end_with_engine_subscribed :
    let c₀ := (make default none).after (subscribed Willing.mk)
    let c₁ := (make default none).after (subscribed Unclosed.mk)
    let c := (c₀.close default Willing.mk).2.1
    let c' := (c₁.close default Unclosed.mk).2.1
    let later : List (Step Willing) := [⟨.subscribe, true, default, Willing.mk⟩]
    (c₀.close default Willing.mk).1 = .ok () ∧ (c.after later).status = .idle ∧
      (c.after later).SnapshotsEnd ∧ (∀ i, (c.after later).PacketsEnd i) ∧
      (c₁.close default Unclosed.mk).1 = .error (.engineUnavailable "busy") ∧
      c'.PacketsEnd 0 ∧ c'.publisher.channel.closed = false ∧
      ∃ packets, c'.bridge.channel? c'.channel = some packets ∧ packets.closed = false := by
  dsimp only
  have hworks := streams_end_with_engine default none
    (orderly_subscribed (c := make default none) Willing.mk) default Willing.mk
  have hfails := streams_end_with_engine default none
    (orderly_subscribed (c := make default none) Unclosed.mk) default Unclosed.mk
  dsimp only at hworks hfails
  obtain ⟨hok, hidle, -, hends, -⟩ := hworks
  obtain ⟨herror, -, hsessions, -, hopen⟩ := hfails
  have hlater : StartsNothing [(⟨.subscribe, true, default, Willing.mk⟩ : Step Willing)] :=
    List.forall_mem_singleton.2 nofun
  obtain ⟨⟨hsnapshots, hpackets⟩, -⟩ :=
    hends rfl [⟨.subscribe, true, default, Willing.mk⟩] ⟨orderly_of_ne nofun nofun, trivial⟩ hlater
  obtain ⟨-, hpublisher, -, hnext⟩ := hopen _ rfl
  exact ⟨hok, (hidle _ hlater).1, hsnapshots, hpackets, herror,
    hsessions [] trivial 0 (by decide), hpublisher, hnext rfl⟩

/-- The streams do not end on every outcome: who reads snapshots goes on waiting when the engine
cannot be closed. -/
theorem unclosed_engine_keeps_streams :
    ¬ ∀ (before : List (Step Unclosed)) (now : Moment) (s : Unclosed),
      (make default none).Throughout Orderly before →
        let c := (((make default none).after before).close now s).2.1
        c.SnapshotsEnd ∧ ∀ i, c.PacketsEnd i := by
  intro h
  obtain ⟨hsnapshots, -⟩ := h [⟨.statistics, true, default, Unclosed.mk⟩] default Unclosed.mk
    ⟨orderly_of_ne nofun nofun, trivial⟩
  have hdrains := hsnapshots 0 _ rfl Nat.one_pos
  cases hdrains.take_eq .one

end Controller

end Session

end PacketMeter
