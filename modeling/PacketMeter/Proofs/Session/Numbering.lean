import PacketMeter.Proofs.Capture.Sending
import PacketMeter.Proofs.Session.Lifecycle
import PacketMeter.Proofs.Stats.Aggregation

/-!
# Sessions, readers and channels in step

A controller numbers its sessions, and its bridge numbers the readers and the channels.  The
three keep in step: session `n` has the reader `n`, which sends to the channel `n`, and the
number of the channel for subscribers tells how many sessions have ended.

A step does one of three things.  It leaves alone all that makes up the session that runs
(`Still`), it begins a session (`opened`), or it ends the one that runs (`Ended`).  That the
numbers keep in step, and whatever else is said of whole runs, follows from these three
cases.
-/

namespace PacketMeter.Session

open PacketMeter.Capture (Active Bridge Packets Worker)
open PacketMeter.Stats

namespace Running

/-- A running session but for whether its feeder goes on. -/
def place (r : Running) : Nat × Nat × Nat := (r.id, r.channel, r.queue)

/-- The channel of a session once its feeder has come to the end. -/
def emptied (r : Running) (packets : Packets) : Packets :=
  if r.feeding then packets.modify r.queue fun q => { q with items := [] } else packets

end Running

namespace Controller

/-! ## What a step does to sessions -/

/-- All that makes up the session that runs is the same. -/
structure Still (c c' : Controller) : Prop where
  status_eq : c'.status = c.status
  place_eq : c'.running?.map Running.place = c.running?.map Running.place
  sessions_eq : c'.sessions = c.sessions
  channel_eq : c'.channel = c.channel
  alike : Bridge.Alike c.bridge c'.bridge
  active_eq : c'.bridge.active? = c.bridge.active?
  timed_eq : c'.aggregator.started?.isSome = c.aggregator.started?.isSome
  aligned : c'.aggregator.Aligned

/-- The controller once a session has begun, where `packets` is its channel before. -/
def opened (c : Controller) (device : Nat) (packets : Packets) (now : Moment) : Controller :=
  let c := (c.move .starting (some device) none).modifyChannel fun _ => packets.subscribe.2
  { c with bridge := c.bridge.run device c.channel }.run device c.channel
    packets.queues.length now

/-- The controller once a start has failed. -/
def unopened (c : Controller) (device : Nat) (packets : Packets) : Controller :=
  let c := (c.move .starting (some device) none).modifyChannel fun _ => packets.subscribe.2
  (c.modifyChannel (·.release packets.queues.length)).move .idle none none

/-- The records that a session which ends has still to count. -/
def unread (c : Controller) (r : Running) : List PacketRecord :=
  if r.feeding then c.queued r.channel r.queue else []

/-- The session `r` ended: its capture was stopped, its channel was closed and replaced, all
that was unread was counted, its time was ended, and one more snapshot was published.  If the
controller was closed as well, so are the new channel and that of the snapshots. -/
structure Ended (σ : Type) [FeedHost σ] (c : Controller) (r : Running) (now : Moment)
    (closing : Prop) (c' : Controller) : Prop where
  running_eq : c.running? = some r
  gone : c'.running? = none
  sessions_eq : c'.sessions = c.sessions
  channel_eq : c'.channel = c.bridge.channels.length
  length_eq : c'.bridge.channels.length = c.bridge.channels.length + 1
  workers_eq : c'.bridge.workers.map Worker.channel = c.bridge.workers.map Worker.channel
  active_eq : c'.bridge.active? = none
  aggregator_eq : c'.aggregator = (c.aggregator.recordAll (c.unread r)).finish now.instant
  published : ∃ s : σ, c'.publisher = (c.publisher.publish (c'.aggregator.tick now s).1).2 ∨
    closing ∧ c'.publisher = (c.publisher.publish (c'.aggregator.tick now s).1).2.close
  fresh : ∃ capacity batch,
    c'.bridge.channel? c'.channel = some (Channel.make capacity batch) ∨
      closing ∧ c'.bridge.channel? c'.channel = some (Channel.make capacity batch).close
  emptied : ∀ packets, c.bridge.channel? r.channel = some packets →
    ∃ closes, (∀ a ∈ closes, a = .close) ∧ c'.bridge.channel? r.channel =
      some ((r.emptied (packets.actAll (.close :: closes))).release r.queue)
  others : ∀ i < c.bridge.channels.length, i ≠ r.channel →
    c'.bridge.channel? i = c.bridge.channel? i

end Controller

/-- Whether an action asks for the end of a session. -/
def Action.isRequest : Action → Bool
  | .stop _ | .depart | .close => true
  | _ => false

/-- Whether an action ends a session, if it runs. -/
def Action.EndsSession (c : Controller) (id : Nat) : Action → Prop
  | .stop only? => only? = none ∨ only? = some id
  | .depart => c.departures.head? = some id
  | .close => True
  | _ => False

namespace Controller

variable {σ : Type} [FeedHost σ]

/-- Whether a step closes the controller. -/
def Closes [CaptureHost σ] (c : Controller) (x : Step σ) : Prop :=
  x.action = .close ∧ (c.close x.now x.host).1 = .ok ()

/-- What a step does. -/
inductive Moves [CaptureHost σ] (c : Controller) (x : Step σ) (c' : Controller) : Prop
  | still (h : Still c c')
  | opens (device : Nat) (packets : Packets) (ha : x.action = .start device)
      (hr : c.running? = none) (hp : c.bridge.channel? c.channel = some packets)
      (hc : c' = c.opened device packets x.now)
  | ends (r : Running) (ha : x.action.EndsSession c r.id) (h : Ended σ c r x.now (c.Closes x) c')

/-- Sessions, readers and channels are numbered alike. -/
structure Numbered (c : Controller) : Prop where
  holds : ∃ o?, c.Holds o?
  aligned : c.aggregator.Aligned
  timed_eq : c.aggregator.started?.isSome = c.running?.isSome
  workers_eq : c.bridge.workers.map Worker.channel = List.range c.sessions
  length_eq : c.bridge.channels.length = c.channel + 1
  sessions_eq : c.sessions = c.channel + if c.running?.isSome then 1 else 0
  running_eq : ∀ r, c.running? = some r → r.id = c.channel ∧ r.channel = c.channel ∧
    c.bridge.active?.map Active.worker = some c.channel

section Still

variable {c c' : Controller}

theorem Still.rfl (h : c.aggregator.Aligned) : Still c c :=
  ⟨.refl _, .refl _, .refl _, .refl _, .rfl, .refl _, .refl _, h⟩

theorem still_modifyChannel (h : c.aggregator.Aligned) (f : Packets → Packets) :
    Still c (c.modifyChannel f) :=
  ⟨rfl, rfl, rfl, rfl, Bridge.alike_modifyChannel _ _ _, rfl, rfl, h⟩

theorem still_subscribe (h : c.aggregator.Aligned) : Still c c.subscribe.2 := by
  unfold subscribe
  split
  · exact .rfl h
  · exact still_modifyChannel h _

/-- What the feeder does: nothing, or it asks its queue, records what it gets, and finds the
end if there is one. -/
theorem feed_cases (c : Controller) : c.feed = c ∨
    ∃ r packets, c.running? = some r ∧ r.feeding = true ∧
      c.bridge.channel? r.channel = some packets ∧
      c.feed.bridge = (c.bridge.modifyChannel r.channel fun _ =>
        (packets.take r.queue .batch).2) ∧
      c.feed.aggregator = c.aggregator.recordAll (packets.take r.queue .batch).1.items ∧
      (c.feed.running? = c.running? ∨ (packets.take r.queue .batch).1 = .ended ∧
        c.feed.running? = some { r with feeding := false }) := by
  cases hr : c.running? with
  | none => exact .inl (by rw [feed, hr])
  | some r =>
      cases hfeeding : r.feeding with
      | false => exact .inl (by rw [feed, hr]; simp [hfeeding])
      | true =>
          cases hp : c.bridge.channel? r.channel with
          | none => exact .inl (by rw [feed, hr]; simp [hfeeding, hp])
          | some packets =>
              refine .inr ⟨r, packets, rfl, hfeeding, hp, ?_⟩
              rw [feed, hr]
              dsimp only
              rw [if_pos hfeeding, hp]
              dsimp only
              cases ht : (packets.take r.queue .batch).1 with
              | ready items => exact ⟨rfl, rfl, .inl rfl⟩
              | pending => exact ⟨rfl, rfl, .inl rfl⟩
              | ended => exact ⟨rfl, rfl, .inr ⟨rfl, rfl⟩⟩

theorem still_feed (h : c.aggregator.Aligned) : Still c c.feed := by
  unfold feed
  split
  · exact .rfl h
  · rename_i running hr
    split
    · split
      · exact .rfl h
      · have halike := Bridge.alike_modifyChannel c.bridge running.channel
        dsimp only
        split
        · exact ⟨rfl, rfl, rfl, rfl, halike _, rfl, congrArg _ (Aggregator.started?_recordAll _ _),
            h.recordAll _⟩
        · exact ⟨rfl, by rw [hr]; rfl, rfl, rfl, halike _, rfl, rfl, h⟩
        · exact ⟨rfl, rfl, rfl, rfl, halike _, rfl, rfl, h⟩
    · exact .rfl h

theorem still_publish (h : c.aggregator.Aligned) (now : Moment) (s : σ) :
    Still c (c.publish now s).1 :=
  ⟨rfl, rfl, rfl, rfl, .rfl, rfl, congrArg _ (Aggregator.started?_tick _ _ _), h.tick _ _⟩

theorem still_tick (h : c.aggregator.Aligned) (now : Moment) (s : σ) :
    Still c (c.tick now s).1 := by
  unfold tick
  split
  · exact still_publish h now s
  · exact .rfl h

theorem Still.trans {c'' : Controller} (h : Still c c') (h' : Still c' c'') : Still c c'' where
  status_eq := h'.status_eq.trans h.status_eq
  place_eq := h'.place_eq.trans h.place_eq
  sessions_eq := h'.sessions_eq.trans h.sessions_eq
  channel_eq := h'.channel_eq.trans h.channel_eq
  alike := h.alike.trans h'.alike
  active_eq := h'.active_eq.trans h.active_eq
  timed_eq := h'.timed_eq.trans h.timed_eq
  aligned := h'.aligned

theorem still_aggregator {aggregator : Aggregator} (ha : aggregator.Aligned)
    (ht : aggregator.started?.isSome = c.aggregator.started?.isSome) :
    Still c { c with aggregator } :=
  ⟨rfl, rfl, rfl, rfl, .rfl, rfl, ht, ha⟩

theorem still_clear (h : c.aggregator.Aligned) (now : Moment) (s : σ) :
    Still c (c.clear now s).2.1 := by
  have hc := still_aggregator (c := c) (h.clear now.instant s)
    (c.aggregator.isSome_started?_clear now.instant s)
  unfold clear
  dsimp only
  split
  · exact hc
  · exact hc.trans (still_publish (h.clear now.instant s) now _)

theorem still_configure (h : c.aggregator.Aligned) (source : Source) (now : Moment) (s : σ) :
    Still c (c.configure source now s).2.1 := by
  have hs := Aggregator.aligned_switch h source c.feed? s
  have hc := still_aggregator (c := c) hs
    (congrArg _ (c.aggregator.started?_switch source c.feed? s))
  unfold configure
  dsimp only
  split
  · exact hc
  · exact hc.trans (still_publish hs now _)

theorem still_act [CaptureHost σ] {a : Action} (ha : a.isTransition = false)
    (h : c.aggregator.Aligned) (now : Moment) (s : σ) : Still c (c.act now s a).2 := by
  cases a with
  | start | stop | depart | close => cases ha
  | clear => exact still_clear h now s
  | configure source => exact still_configure h source now s
  | tick => exact still_tick h now s
  | feed => exact still_feed h
  | deliver worker script =>
      exact ⟨rfl, rfl, rfl, rfl, Bridge.alike_deliver _ _ _,
        Bridge.active?_deliver _ _ _, rfl, h⟩
  | disconnect worker =>
      exact ⟨rfl, rfl, rfl, rfl, Bridge.alike_disconnect _ _,
        Bridge.active?_disconnect _ _, rfl, h⟩
  | subscribe => exact still_subscribe h
  | statistics => exact ⟨rfl, rfl, rfl, rfl, .rfl, rfl, rfl, h⟩
  | onPackets =>
      exact ⟨rfl, rfl, rfl, rfl, Bridge.alike_modifyChannel _ _ _, rfl, rfl, h⟩
  | onSnapshots => exact ⟨rfl, rfl, rfl, rfl, .rfl, rfl, rfl, h⟩

end Still

/-! ## Beginning a session -/

theorem Holds.running?_eq {c : Controller} (h : c.Holds none) : c.running? = none :=
  Option.isNone_iff_eq_none.1 (Option.isSome_eq_false_iff.1 h.running_eq)

section Start

variable {c : Controller} {packets : Packets}

theorem subscribe_eq (hp : c.bridge.channel? c.channel = some packets) :
    c.subscribe =
      ((c.channel, packets.queues.length), c.modifyChannel fun _ => packets.subscribe.2) := by
  rw [subscribe, hp]
  rfl

omit [FeedHost σ] in
/-- A start in the idle state comes to what that of the bridge comes to, and opens a session or
fails accordingly. -/
theorem start_of_idle [CaptureHost σ] (h : c.Holds none)
    (hp : c.bridge.channel? c.channel = some packets) (device : Nat) (now : Moment) (s : σ) :
    let tried := c.bridge.start c.cfg.capture device c.channel s
    (c.start device now s).1 = tried.1.result.map (fun _ => .capturing) ∧
      (c.start device now s).2.2 = tried.2.2 ∧
      (tried.1.result = .ok () → (c.start device now s).2.1 = c.opened device packets now) ∧
      ∀ f, tried.1.result = .error f → (c.start device now s).2.1 = c.unopened device packets := by
  have hidle : c.status.state = .idle := by
    rw [h.status_eq]
    rfl
  rw [start, if_pos hidle]
  have hs : (c.move .starting (some device) none).subscribe = ((c.channel, packets.queues.length),
      (c.move .starting (some device) none).modifyChannel fun _ => packets.subscribe.2) :=
    subscribe_eq hp
  dsimp only
  rw [hs]
  dsimp only
  generalize hc₁ : (c.move .starting (some device) none).modifyChannel
    (fun _ => packets.subscribe.2) = c₁
  have ha : c₁.bridge.active? = none := by
    rw [← hc₁]
    exact h.active?_eq
  have hcfg : c₁.cfg = c.cfg := by
    rw [← hc₁]
    rfl
  have hl := Bridge.launch_eq c₁.bridge c.cfg.capture device c.channel s
  obtain ⟨houtcome, hhost⟩ :=
    Bridge.launch_congr c.bridge c₁.bridge c.cfg.capture device c.channel s
  rw [Bridge.start_of_inactive ha, Bridge.start_of_inactive h.active?_eq, hcfg, ← houtcome,
    ← hhost]
  generalize c₁.bridge.launch c.cfg.capture device c.channel s = launched at hl ⊢
  obtain ⟨outcome, bridge, s'⟩ := launched
  dsimp only at hl ⊢
  rcases hl with ⟨rfl, rfl⟩ | ⟨⟨f, hf⟩, rfl⟩
  · refine ⟨rfl, rfl, fun _ => by rw [← hc₁]; rfl, ?_⟩
    intro f he
    cases he
  · rw [hf]
    refine ⟨rfl, rfl, ?_, fun _ _ => by rw [← hc₁]; rfl⟩
    intro he
    cases he

omit [FeedHost σ] in
/-- A start in the idle state opens a session or fails. -/
theorem start_eq [CaptureHost σ] (h : c.Holds none)
    (hp : c.bridge.channel? c.channel = some packets) (device : Nat) (now : Moment) (s : σ) :
    ((c.start device now s).1 = .ok .capturing ∧
        (c.start device now s).2.1 = c.opened device packets now) ∨
      ((∃ f, (c.start device now s).1 = .error f) ∧
        (c.start device now s).2.1 = c.unopened device packets) := by
  obtain ⟨houtcome, -, hok, herror⟩ := start_of_idle h hp device now s
  rw [houtcome]
  cases hr : (c.bridge.start c.cfg.capture device c.channel s).1.result with
  | ok => exact .inl ⟨rfl, hok hr⟩
  | error f => exact .inr ⟨⟨f, rfl⟩, herror f hr⟩

theorem still_unopened (h : c.Holds none) (ha : c.aggregator.Aligned) (device : Nat)
    (packets : Packets) : Still c (c.unopened device packets) where
  status_eq := h.status_eq.symm
  place_eq := rfl
  sessions_eq := rfl
  channel_eq := rfl
  alike := (Bridge.alike_modifyChannel _ _ _).trans
    (Bridge.alike_modifyChannel _ _ _)
  active_eq := rfl
  timed_eq := rfl
  aligned := ha

end Start

/-! ## Ending a session -/

theorem Numbered.serves {c : Controller} (h : c.Numbered) (worker : Nat) :
    c.bridge.Serves worker worker := by
  intro w hw
  have hm : (c.bridge.workers.map Worker.channel)[worker]? = some w.channel := by
    rw [List.getElem?_map, hw, Option.map_some]
  rw [h.workers_eq] at hm
  obtain ⟨hlt, he⟩ := List.getElem?_eq_some_iff.1 hm
  rw [← he, List.getElem_range]

theorem Numbered.sessions_eq_of_idle {c : Controller} (h : c.Numbered) (hr : c.running? = none) :
    c.sessions = c.channel := by
  have hs := h.sessions_eq
  rwa [hr] at hs

theorem Numbered.sessions_eq_of_running {c : Controller} (h : c.Numbered) {r : Running}
    (hr : c.running? = some r) : c.sessions = c.channel + 1 := by
  have hs := h.sessions_eq
  rwa [hr] at hs

theorem Numbered.exists_channel {c : Controller} (h : c.Numbered) :
    ∃ packets, c.bridge.channel? c.channel = some packets :=
  ⟨_, List.getElem?_eq_getElem (by rw [h.length_eq]; exact Nat.lt_succ_self _)⟩

theorem queued_eq {c : Controller} {packets : Packets} {channel : Nat}
    (hp : c.bridge.channel? channel = some packets) (queue : Nat) :
    c.queued channel queue = packets.itemsAt queue := by
  rw [queued, hp, Option.bind_some, Channel.itemsAt]
  cases packets.queue? queue <;> rfl

/-- What the feeder of a session has left is recorded, and its queue is empty then. -/
theorem exists_drain_eq (c : Controller) (r : Running) :
    ∃ bridge departures, c.drain r =
        { c with aggregator := c.aggregator.recordAll (c.unread r), bridge, departures } ∧
      Bridge.Alike c.bridge bridge ∧ bridge.active? = c.bridge.active? ∧
      ∀ i, bridge.channel? i =
        (c.bridge.channel? i).map fun p => if r.channel = i then r.emptied p else p := by
  unfold drain unread Running.emptied
  split
  · exact ⟨_, _, rfl, Bridge.alike_modifyChannel _ _ _, rfl,
      fun i => Bridge.channel?_modifyChannel c.bridge r.channel i _⟩
  · refine ⟨c.bridge, c.departures, rfl, .rfl, rfl, fun i => ?_⟩
    simp

theorem itemsAt_actAll_of_closes {xs : List (Channel.Action PacketRecord)}
    (hx : ∀ a ∈ xs, a = .close) (packets : Packets) (i : Nat) :
    (packets.actAll xs).itemsAt i = packets.itemsAt i := by
  induction xs generalizing packets with
  | nil => rfl
  | cons a xs ih =>
      obtain rfl := hx a List.mem_cons_self
      rw [Channel.actAll_cons, ih (fun b hb => hx b (List.mem_cons_of_mem _ hb)), Channel.act,
        Channel.itemsAt, Channel.itemsAt, Channel.queue?_close]
      cases packets.queue? i with
      | none => rfl
      | some q => exact ItemQueue.items_shut q

section Finish

variable [CaptureHost σ] {c : Controller} {r : Running}

omit [FeedHost σ] in
/-- Until the feeder is asked to come to its end, the channel of the session is at most
closed, and there is a new channel. -/
theorem exists_acts_halted (h : c.Numbered) (hr : c.running? = some r) (s : σ) :
    ∃ closes, (∀ a ∈ closes, a = .close) ∧
      Bridge.Acts c.bridge (c.halted r s).bridge (Bridge.on r.channel (.close :: closes)) ∧
      (c.halted r s).bridge.channel? c.bridge.channels.length =
        some (Channel.make c.cfg.capture.capacity c.cfg.capture.batch) := by
  obtain ⟨-, hrc, ha⟩ := h.running_eq r hr
  have hclose : Bridge.Acts c.bridge (c.bridge.modifyChannel r.channel Channel.close)
      (Bridge.on r.channel [.close]) := Bridge.acts_modifyChannel fun _ _ => rfl
  have hopen := Bridge.acts_openChannel (c.bridge.modifyChannel r.channel Channel.close)
    c.cfg.capture.capacity c.cfg.capture.batch
  have hnew := Bridge.channel?_openChannel
    (c.bridge.modifyChannel r.channel Channel.close) c.cfg.capture.capacity c.cfg.capture.batch
  have hlen : (c.bridge.modifyChannel r.channel Channel.close).channels.length =
      c.bridge.channels.length := (Bridge.alike_modifyChannel _ _ _).length_eq
  rw [hlen] at hnew
  have hserves : ∀ active, c.bridge.active? = some active →
      c.bridge.Serves active.worker r.channel := by
    intro active hactive
    rw [hactive] at ha
    obtain hw : active.worker = c.channel := Option.some.inj ha
    rw [hrc, ← hw]
    exact h.serves active.worker
  obtain ⟨closes, hcl, hstop⟩ := Bridge.exists_acts_stop
    (b := ((c.bridge.modifyChannel r.channel Channel.close).openChannel
      c.cfg.capture.capacity c.cfg.capture.batch).2) hserves c.cfg.capture s
  refine ⟨closes, hcl, ((hclose.trans hopen).trans hstop).congr ?_, (hstop _ _ hnew).trans ?_⟩
  · intro i
    rw [List.append_nil, Bridge.on_append]
    rfl
  · have hne : c.bridge.channels.length ≠ r.channel := by
      rw [h.length_eq, hrc]
      exact Nat.succ_ne_self _
    rw [Bridge.on_of_ne hne]
    rfl

omit [FeedHost σ] in
theorem unread_halted (h : c.Numbered) (hr : c.running? = some r) (s : σ) :
    (c.halted r s).unread r = c.unread r := by
  obtain ⟨closes, hcl, hacts, -⟩ := exists_acts_halted h hr s
  obtain ⟨packets, hp⟩ := h.exists_channel
  rw [← (h.running_eq r hr).2.1] at hp
  have hp' := hacts _ _ hp
  rw [Bridge.on_self] at hp'
  rw [unread, unread, queued_eq hp, queued_eq hp', itemsAt_actAll_of_closes]
  rw [List.forall_mem_cons]
  exact ⟨rfl, hcl⟩

omit [FeedHost σ] in
/-- The end of a session adds a channel, and adds no reader. -/
theorem halted_shape (c : Controller) (r : Running) (s : σ) :
    (c.halted r s).channel = c.bridge.channels.length ∧
      (c.halted r s).bridge.channels.length = c.bridge.channels.length + 1 ∧
      (c.halted r s).bridge.workers.map Worker.channel = c.bridge.workers.map Worker.channel := by
  have hlen : (c.bridge.modifyChannel r.channel Channel.close).channels.length =
      c.bridge.channels.length := (Bridge.alike_modifyChannel _ _ _).length_eq
  have hstop := Bridge.alike_stop (((c.bridge.modifyChannel r.channel
    Channel.close).openChannel c.cfg.capture.capacity c.cfg.capture.batch).2) c.cfg.capture s
  refine ⟨hlen, hstop.length_eq.trans ?_, hstop.workers_eq⟩
  rw [Bridge.openChannel, List.length_append, hlen]
  rfl

/-- The controller with its session ended, but for the last snapshot. -/
def settled (c : Controller) (r : Running) (now : Moment) (s : σ) : Controller :=
  let c := (c.halted r s).drain r
  { c with
    bridge := c.bridge.modifyChannel r.channel (·.release r.queue)
    aggregator := c.aggregator.finish now.instant }

theorem exists_finish_eq (c : Controller) (r : Running) (now : Moment) (s : σ) :
    ∃ s' : σ, (c.finish r now s).1 = ((c.settled r now s).publish now s').1.move .idle none none :=
  ⟨_, rfl⟩

omit [FeedHost σ] in
theorem exists_settled_eq (h : c.Numbered) (hr : c.running? = some r) (now : Moment) (s : σ) :
    ∃ bridge departures, c.settled r now s = { c.halted r s with
        aggregator := (c.aggregator.recordAll (c.unread r)).finish now.instant
        bridge, departures } ∧
      Bridge.Alike (c.halted r s).bridge bridge ∧ bridge.active? = none ∧
      ∀ i, bridge.channel? i = ((c.halted r s).bridge.channel? i).map fun p =>
        if r.channel = i then (r.emptied p).release r.queue else p := by
  obtain ⟨bridge, departures, hd, halike, hactive, hchannel⟩ := exists_drain_eq (c.halted r s) r
  refine ⟨bridge.modifyChannel r.channel (·.release r.queue), departures, ?_,
    halike.trans (Bridge.alike_modifyChannel _ _ _),
    hactive.trans (Bridge.active?_stop _ _ s), ?_⟩
  · rw [settled, hd, unread_halted h hr s]
    rfl
  · intro i
    rw [Bridge.channel?_modifyChannel, hchannel, Option.map_map]
    congr 1
    funext p
    by_cases hi : r.channel = i <;> simp [hi]

/-- The last thing in the end of a session is one snapshot of what was counted. -/
theorem published_finish (h : c.Numbered) (hr : c.running? = some r) (now : Moment) (s : σ) :
    (c.finish r now s).1.aggregator =
        (c.aggregator.recordAll (c.unread r)).finish now.instant ∧
      ∃ s' : σ, (c.finish r now s).1.publisher =
        (c.publisher.publish ((c.finish r now s).1.aggregator.tick now s').1).2 := by
  obtain ⟨s', hf⟩ := exists_finish_eq c r now s
  obtain ⟨bridge, departures, hd, -⟩ := exists_settled_eq h hr now s
  rw [hf, hd]
  have htick := Aggregator.tick_of_not_started
    (a := (c.aggregator.recordAll (c.unread r)).finish now.instant) rfl now s'
  exact ⟨htick, s',
    congrArg (fun a : Aggregator => (c.publisher.publish (a.tick now s').1).2) htick.symm⟩

/-- The channel for the subscribers of the next session is a new one. -/
theorem fresh_finish (h : c.Numbered) (hr : c.running? = some r) (now : Moment) (s : σ) :
    (c.finish r now s).1.bridge.channel? (c.finish r now s).1.channel =
      some (Channel.make c.cfg.capture.capacity c.cfg.capture.batch) := by
  obtain ⟨s', hf⟩ := exists_finish_eq c r now s
  obtain ⟨closes, -, -, hnew⟩ := exists_acts_halted h hr s
  obtain ⟨bridge, departures, hd, -, -, hlast⟩ := exists_settled_eq h hr now s
  have hne : r.channel ≠ c.bridge.channels.length := by
    rw [h.length_eq, (h.running_eq r hr).2.1]
    exact (Nat.succ_ne_self _).symm
  rw [hf, hd]
  change bridge.channel? (c.halted r s).channel = _
  rw [hlast, (halted_shape c r s).1, hnew, Option.map_some, if_neg hne]

theorem ended_finish (h : c.Numbered) (hr : c.running? = some r) (now : Moment) (s : σ) :
    Ended σ c r now False (c.finish r now s).1 := by
  obtain ⟨s', hf⟩ := exists_finish_eq c r now s
  obtain ⟨closes, hcl, hacts, hnew⟩ := exists_acts_halted h hr s
  obtain ⟨hchannel, hlength, hworkers⟩ := halted_shape c r s
  obtain ⟨bridge, departures, hd, halike, hactive, hlast⟩ := exists_settled_eq h hr now s
  obtain ⟨hagg, s'', hpub⟩ := published_finish h hr now s
  have hfresh := fresh_finish h hr now s
  rw [hf, hd] at hagg hpub hfresh ⊢
  refine ⟨hr, rfl, rfl, hchannel, halike.length_eq.trans hlength,
    halike.workers_eq.trans hworkers, hactive, hagg, ⟨s'', .inl hpub⟩, ⟨_, _, .inl hfresh⟩,
    ?_, ?_⟩
  · intro packets hp
    have hp' := hacts _ _ hp
    rw [Bridge.on_self] at hp'
    refine ⟨closes, hcl, ?_⟩
    change bridge.channel? r.channel = _
    rw [hlast, hp', Option.map_some, if_pos rfl]
  · intro i hi hir
    obtain ⟨packets, hp⟩ : ∃ packets, c.bridge.channel? i = some packets :=
      ⟨_, List.getElem?_eq_getElem hi⟩
    have hp' := hacts _ _ hp
    rw [Bridge.on_of_ne hir, Channel.actAll_nil] at hp'
    change bridge.channel? i = _
    rw [hlast, hp', hp, Option.map_some, if_neg hir.symm]

end Finish

/-! ## Steps and runs -/

section Moves

variable [CaptureHost σ] {c c' : Controller}

theorem Numbered.with_departures (h : c.Numbered) (departures : List Nat) :
    { c with departures }.Numbered := by
  obtain ⟨o?, hs, hr, hd⟩ := h.holds
  exact ⟨⟨o?, hs, hr, hd⟩, h.aligned, h.timed_eq, h.workers_eq, h.length_eq, h.sessions_eq,
    h.running_eq⟩

omit [CaptureHost σ] in
/-- An end that closes nothing more. -/
theorem Ended.mono {r : Running} {now : Moment} (h : Ended σ c r now False c') (closing : Prop) :
    Ended σ c r now closing c' :=
  { h with
    published := h.published.imp fun _ hp => .inl (hp.resolve_right fun hn => hn.1)
    fresh := h.fresh.imp fun _ hf => hf.imp fun _ hf => .inl (hf.resolve_right fun hn => hn.1) }

omit [CaptureHost σ] in
/-- That the controller is closed right after the end of a session changes the subscribers
of snapshots and the new channel. -/
theorem Ended.close {r : Running} {now : Moment} {closing : Prop}
    (h : Ended σ c r now False c') (hc : closing)
    (hlt : r.channel < c.bridge.channels.length)
    (hp : ∃ s : σ, c'.publisher = (c.publisher.publish (c'.aggregator.tick now s).1).2)
    {capacity batch : Nat}
    (hnew : c'.bridge.channel? c'.channel = some (Channel.make capacity batch)) :
    Ended σ c r now closing
      { c'.modifyChannel Channel.close with publisher := c'.publisher.close } := by
  have hne : c'.channel ≠ r.channel := by
    rw [h.channel_eq]
    exact (Nat.ne_of_lt hlt).symm
  have hother : ∀ i, c'.channel ≠ i →
      (c'.modifyChannel Channel.close).bridge.channel? i = c'.bridge.channel? i := by
    intro i hi
    rw [modifyChannel, Bridge.channel?_modifyChannel]
    simp [hi]
  have hclosed : (c'.modifyChannel Channel.close).bridge.channel? c'.channel =
      some (Channel.make capacity batch).close := by
    rw [modifyChannel, Bridge.channel?_modifyChannel, hnew, Option.map_some, if_pos rfl]
  have halike := Bridge.alike_modifyChannel c'.bridge c'.channel Channel.close
  refine ⟨h.running_eq, h.gone, h.sessions_eq, h.channel_eq, halike.length_eq.trans h.length_eq,
    halike.workers_eq.trans h.workers_eq, h.active_eq, h.aggregator_eq, ?_, ?_, ?_, ?_⟩
  · obtain ⟨s, hp⟩ := hp
    exact ⟨s, .inr ⟨hc, congrArg Publisher.close hp⟩⟩
  · exact ⟨_, _, .inr ⟨hc, hclosed⟩⟩
  · intro packets hp
    obtain ⟨closes, hcl, he⟩ := h.emptied packets hp
    exact ⟨closes, hcl, (hother _ hne).trans he⟩
  · intro i hi hir
    refine (hother i ?_).trans (h.others i hi hir)
    rw [h.channel_eq]
    exact (Nat.ne_of_lt hi).symm

/-- What is left of a controller when a request did not end a session.  Closing it ends the
subscriptions. -/
structure Refused (c : Controller) (x : Step σ) (c' : Controller) : Prop where
  exists_eq : ∃ departures publisher bridge, c' = { c with departures, publisher, bridge } ∧
    (bridge = c.bridge ∨ c.Closes x ∧ c.running? = none ∧
      bridge = c.bridge.modifyChannel c.channel Channel.close)

theorem refused_self (x : Step σ) : Refused c x c := ⟨_, _, _, rfl, .inl rfl⟩

theorem ends_or_refused_depart (h : c.Numbered) {x : Step σ} (hx : x.action = .depart) :
    Refused c x (c.depart x.now x.host).1 ∨
      ∃ r, x.action.EndsSession c r.id ∧ Ended σ c r x.now (c.Closes x) (c.depart x.now x.host).1 := by
  rw [depart]
  cases hd : c.departures with
  | nil => exact .inl (refused_self x)
  | cons id departures =>
      dsimp only
      rcases stop_cases { c with departures } (some id) x.now x.host with
        ⟨he, -⟩ | ⟨r, hr, ho, he⟩
      · rw [he]
        exact .inl ⟨_, _, _, rfl, .inl rfl⟩
      · rw [he]
        have hid : id = r.id := by simpa using ho
        have hended := ended_finish (h.with_departures departures) hr x.now x.host
        refine .inr ⟨r, ?_, ?_⟩
        · rw [hx, ← hid]
          change c.departures.head? = _
          rw [hd]
          rfl
        · -- An end says nothing about the requests that wait.
          have hsame : Ended σ c r x.now False ({ c with departures }.finish r x.now x.host).1 :=
            { hended with }
          exact hsame.mono _

theorem ends_or_refused_close (h : c.Numbered) {x : Step σ} (hx : x.action = .close) :
    Refused c x (c.close x.now x.host).2.1 ∨
      ∃ r, x.action.EndsSession c r.id ∧ Ended σ c r x.now (c.Closes x) (c.close x.now x.host).2.1 := by
  have hcl : (c.close x.now x.host).1 = .ok () → c.Closes x := fun ho => ⟨hx, ho⟩
  rw [hx]
  rw [close] at hcl ⊢
  dsimp only at hcl ⊢
  rcases stop_cases c none x.now x.host with ⟨he, hr⟩ | ⟨r, hr, -, he⟩
  · rw [he]
    split at hcl
    · exact .inl (refused_self x)
    · exact .inl ⟨_, _, _, rfl, .inr ⟨hcl rfl, hr rfl, rfl⟩⟩
  · rw [he]
    have hended := ended_finish h hr x.now x.host
    have hlt : r.channel < c.bridge.channels.length := by
      rw [h.length_eq, (h.running_eq r hr).2.1]
      exact Nat.lt_succ_self _
    rw [he] at hcl
    split at hcl
    · exact .inr ⟨r, trivial, hended.mono _⟩
    · exact .inr ⟨r, trivial, hended.close (hcl rfl) hlt (published_finish h hr x.now x.host).2
        (fresh_finish h hr x.now x.host)⟩

/-- A request to stop ends the session that it is about, or leaves it alone. -/
theorem ends_or_refused (h : c.Numbered) {x : Step σ} (hx : x.action.isRequest = true) :
    Refused c x (c.step x).2 ∨
      ∃ r, x.action.EndsSession c r.id ∧ Ended σ c r x.now (c.Closes x) (c.step x).2 := by
  have hstep : (c.step x).2 = (c.act x.now x.host x.action).2 := rfl
  rw [hstep]
  cases ha : x.action with
  | stop only? =>
      rw [act]
      dsimp only
      rcases stop_cases c only? x.now x.host with ⟨he, -⟩ | ⟨r, hr, ho, he⟩
      · rw [he]
        exact .inl (refused_self x)
      · rw [he]
        exact .inr ⟨r, ho, (ended_finish h hr x.now x.host).mono _⟩
  | depart =>
      have hd := ends_or_refused_depart h ha
      rwa [ha] at hd
  | close =>
      have hc := ends_or_refused_close h ha
      rwa [ha] at hc
  | _ =>
      rw [ha] at hx
      cases hx

theorem Refused.still {x : Step σ} (h : Refused c x c') (ha : c.aggregator.Aligned) :
    Still c c' := by
  obtain ⟨departures, publisher, bridge, rfl, rfl | ⟨-, -, rfl⟩⟩ := h.exists_eq
  · exact ⟨rfl, rfl, rfl, rfl, .rfl, rfl, rfl, ha⟩
  · exact ⟨rfl, rfl, rfl, rfl, Bridge.alike_modifyChannel _ _ _, rfl, rfl, ha⟩

omit [FeedHost σ] in
/-- A start does nothing where a session runs, and otherwise opens one or fails. -/
theorem Numbered.start_cases (h : c.Numbered) (device : Nat) (now : Moment) (s : σ) :
    (c.start device now s).2.1 = c ∨
      ∃ packets, c.Holds none ∧ c.bridge.channel? c.channel = some packets ∧
        ((c.start device now s).2.1 = c.opened device packets now ∨
          (c.start device now s).2.1 = c.unopened device packets) := by
  obtain ⟨o?, ho⟩ := h.holds
  obtain ⟨packets, hp⟩ := h.exists_channel
  cases o? with
  | some o =>
      have hne : c.status.state ≠ .idle := by
        rw [ho.status_eq]
        exact State.noConfusion
      rw [start_of_ne_idle device now s hne]
      exact .inl rfl
  | none =>
      refine .inr ⟨packets, ho, hp, ?_⟩
      rcases start_eq ho hp device now s with ⟨-, he⟩ | ⟨-, he⟩
      · exact .inl he
      · exact .inr he

/-- A start opens a session where none is, or leaves the sessions alone. -/
theorem moves_start (h : c.Numbered) {x : Step σ} {device : Nat} (hx : x.action = .start device) :
    Moves c x (c.start device x.now x.host).2.1 := by
  rcases h.start_cases device x.now x.host with he | ⟨packets, ho, hp, he | he⟩
  · rw [he]
    exact .still (.rfl h.aligned)
  · exact .opens device packets hx ho.running?_eq hp he
  · rw [he]
    exact .still (still_unopened ho h.aligned device packets)

/-- A step leaves the session alone, begins one or ends the one that runs. -/
theorem moves_step (h : c.Numbered) (x : Step σ) : Moves c x (c.step x).2 := by
  have hrequest : x.action.isRequest = true → Moves c x (c.step x).2 := by
    intro hx
    rcases ends_or_refused h hx with hr | ⟨r, ha, he⟩
    · exact .still (hr.still h.aligned)
    · exact .ends r ha he
  have hother : x.action.isTransition = false → Moves c x (c.step x).2 :=
    fun hx => .still (still_act hx h.aligned x.now x.host)
  cases ha : x.action with
  | start device =>
      have hs : (c.step x).2 = (c.start device x.now x.host).2.1 := by
        rw [step, ha]
        rfl
      rw [hs]
      exact moves_start h ha
  | stop _ | depart | close => exact hrequest (by rw [ha]; rfl)
  | _ => exact hother (by rw [ha]; rfl)

omit [FeedHost σ] [CaptureHost σ] in
theorem Still.exists_running (h : Still c c') {r : Running} (hr : c'.running? = some r) :
    ∃ r₀, c.running? = some r₀ ∧ r₀.id = r.id ∧ r₀.channel = r.channel ∧ r₀.queue = r.queue := by
  have hp := h.place_eq
  rw [hr, Option.map_some] at hp
  obtain ⟨r₀, hr₀, he⟩ := Option.map_eq_some_iff.1 hp.symm
  exact ⟨r₀, hr₀, congrArg (·.1) he, congrArg (·.2.1) he, congrArg (·.2.2) he⟩

omit [FeedHost σ] [CaptureHost σ] in
theorem Still.isSome_running_eq (h : Still c c') : c'.running?.isSome = c.running?.isSome := by
  have hs := congrArg Option.isSome h.place_eq
  rwa [Option.isSome_map, Option.isSome_map] at hs

omit [FeedHost σ] [CaptureHost σ] in
theorem Still.running?_eq_none_iff (h : Still c c') : c'.running? = none ↔ c.running? = none := by
  rw [← Option.not_isSome_iff_eq_none, ← Option.not_isSome_iff_eq_none, h.isSome_running_eq]

/-- The numbers keep in step. -/
theorem Numbered.moves (h : c.Numbered) {x : Step σ} (hm : Moves c x c')
    (hh : ∃ o?, c'.Holds o?) : c'.Numbered := by
  cases hm with
  | still hs =>
      refine ⟨hh, hs.aligned, ?_, ?_, ?_, ?_, ?_⟩
      · rw [hs.timed_eq, h.timed_eq, hs.isSome_running_eq]
      · rw [hs.alike.workers_eq, h.workers_eq, hs.sessions_eq]
      · rw [hs.alike.length_eq, h.length_eq, hs.channel_eq]
      · rw [hs.sessions_eq, h.sessions_eq, hs.channel_eq, hs.isSome_running_eq]
      · intro r hr
        obtain ⟨r₀, hr₀, hid, hchannel, -⟩ := hs.exists_running hr
        rw [← hid, ← hchannel, hs.channel_eq, hs.active_eq]
        exact h.running_eq r₀ hr₀
  | opens device packets ha hr hp hc =>
      have hs := h.sessions_eq
      rw [hr] at hs
      obtain hs : c.sessions = c.channel := hs
      subst hc
      refine ⟨hh, h.aligned, rfl, ?_, ?_, ?_, ?_⟩
      · change (c.bridge.workers ++ [_]).map Worker.channel = List.range (c.sessions + 1)
        rw [List.map_append, h.workers_eq, List.range_succ, hs]
        rfl
      · exact (Bridge.alike_modifyChannel _ _ _).length_eq.trans h.length_eq
      · exact congrArg (· + 1) hs
      · intro r hrun
        obtain rfl := Option.some.inj hrun
        have hl := congrArg List.length h.workers_eq
        rw [List.length_map, List.length_range, hs] at hl
        exact ⟨hs, rfl, congrArg some hl⟩
  | ends r ha he =>
      have hrc := h.running_eq r he.running_eq
      refine ⟨hh, ?_, ?_, ?_, ?_, ?_, ?_⟩
      · rw [he.aggregator_eq]
        exact h.aligned.recordAll _
      · rw [he.aggregator_eq, he.gone]
        rfl
      · rw [he.workers_eq, h.workers_eq, he.sessions_eq]
      · rw [he.length_eq, he.channel_eq]
      · rw [he.sessions_eq, h.sessions_eq, he.channel_eq, h.length_eq, he.gone, he.running_eq]
        rfl
      · intro r' hr'
        rw [he.gone] at hr'
        cases hr'

omit [FeedHost σ] [CaptureHost σ] in
theorem numbered_make (cfg : SessionConfig) (feed? : Option Nat) : (make cfg feed?).Numbered where
  holds := ⟨none, holds_make cfg feed?⟩
  aligned := Aggregator.aligned_make cfg.stats
  timed_eq := rfl
  workers_eq := rfl
  length_eq := rfl
  sessions_eq := rfl
  running_eq _ hr := nomatch hr

theorem Numbered.step (h : c.Numbered) (x : Step σ) : (c.step x).2.Numbered := by
  obtain ⟨o?, ho⟩ := h.holds
  obtain ⟨said, o'?, -, ho', -⟩ := turned_act ho x.action x.now x.host
  exact h.moves (moves_step h x) ⟨o'?, ho'⟩

theorem Numbered.after (h : c.Numbered) (steps : List (Step σ)) : (c.after steps).Numbered := by
  induction steps generalizing c with
  | nil => exact h
  | cons x steps ih => exact ih (h.step x)

end Moves

end Controller

end PacketMeter.Session
