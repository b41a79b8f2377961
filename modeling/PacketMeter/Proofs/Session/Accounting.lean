import PacketMeter.Proofs.Session.Subscribers
import PacketMeter.Proofs.Stats.Balance

/-!
# What a session adds to the statistics

The feeder of a session has a queue of the channel that the reader sends to, from before the
first record on.  What it takes from this queue is counted.  It comes to its end only when the
channel is closed and the queue is empty, and as the session ends it counts what is left.  So
all that the reader has sent is counted, but what the queue has dropped.

The snapshot that a session leaves behind is made after this.
-/

namespace PacketMeter.Session

open PacketMeter.Capture (Bridge Packets)
open PacketMeter.Stats

namespace Controller

variable {σ : Type} [FeedHost σ] [CaptureHost σ] {c : Controller} {x : Step σ}

/-! ## The aggregator -/

section Aggregator

variable {P : Aggregator → Prop}

theorem aggregator_start (h : Aggregator.IsKept σ P) (hn : c.Numbered) (device : Nat)
    (now : Moment) (s : σ) (hp : P c.aggregator) :
    P (c.start device now s).2.1.aggregator := by
  rcases hn.start_cases device now s with he | ⟨packets, -, -, he | he⟩
  · rw [he]
    exact hp
  · rw [he]
    exact h.begin c.aggregator now.instant hp
  · rw [he]
    exact hp

/-- A step keeps what everything keeps but a new start of the statistics. -/
theorem aggregator_step (h : Aggregator.IsKept σ P) (hn : c.Numbered)
    (hx : x.action.isReset = false) (hp : P c.aggregator) : P (c.step x).2.aggregator := by
  have hrequest : x.action.isRequest = true → P (c.step x).2.aggregator := by
    intro hx
    rcases ends_or_refused hn hx with hr | ⟨r, -, he⟩
    · obtain ⟨_, _, _, he, -⟩ := hr.exists_eq
      rw [he]
      exact hp
    · rw [he.aggregator_eq]
      exact h.finish _ _ (h.recordAll _ _ hp)
  cases ha : x.action with
  | start device =>
      rw [step, ha]
      exact aggregator_start h hn device x.now x.host hp
  | stop _ | depart | close => exact hrequest (by rw [ha]; rfl)
  | clear | configure _ =>
      rw [ha] at hx
      cases hx
  | tick =>
      rw [step, ha]
      change P (c.tick x.now x.host).1.aggregator
      unfold tick
      split
      · exact h.tick _ _ _ hp
      · exact hp
  | feed =>
      rw [step, ha]
      change P c.feed.aggregator
      rcases c.feed_cases with he | ⟨_, _, _, _, _, _, hagg, -⟩
      · rw [he]
        exact hp
      · rw [hagg]
        exact h.recordAll _ _ hp
  | subscribe =>
      obtain ⟨packets, hc⟩ := hn.exists_channel
      rw [step, ha]
      change P c.subscribe.2.aggregator
      rw [subscribe_eq hc]
      exact hp
  | _ =>
      rw [step, ha]
      exact hp

theorem aggregator_step_of_invariant (h : Aggregator.IsInvariant σ P) (hn : c.Numbered)
    (hp : P c.aggregator) : P (c.step x).2.aggregator := by
  cases ha : x.action with
  | clear =>
      rw [step, ha]
      change P (c.clear x.now x.host).2.1.aggregator
      have hc := h.clear c.aggregator x.now.instant x.host hp
      unfold clear
      dsimp only
      split
      · exact hc
      · exact h.tick _ _ _ hc
  | configure source =>
      rw [step, ha]
      change P (c.configure source x.now x.host).2.1.aggregator
      have hs := h.switch c.aggregator source c.feed? x.host hn.aligned hp
      unfold configure
      dsimp only
      split
      · exact hs
      · exact h.tick _ _ _ hs
  | _ => exact aggregator_step h.toIsKept hn (by rw [ha]; rfl) hp

theorem aggregator_after (h : Aggregator.IsInvariant σ P) (hn : c.Numbered) (hp : P c.aggregator)
    (steps : List (Step σ)) : P (c.after steps).aggregator := by
  induction steps generalizing c with
  | nil => exact hp
  | cons x steps ih => exact ih (hn.step x) (aggregator_step_of_invariant h hn hp)

end Aggregator

/-! ## The end of a feeder -/

/-- A feeder that has come to its end has left nothing in its queue, and its channel is
closed. -/
def Settled (c : Controller) : Prop :=
  ∀ r packets, c.running? = some r → r.feeding = false →
    c.bridge.channel? r.channel = some packets →
      packets.closed = true ∧ packets.itemsAt r.queue = []

omit [FeedHost σ] [CaptureHost σ] in
theorem settled_make (cfg : SessionConfig) (feed? : Option Nat) : (make cfg feed?).Settled :=
  fun _ _ hr => nomatch hr

/-- A session that goes on is the same but for the end of its feeder. -/
theorem running?_step (hn : c.Numbered) (hs : Still c (c.step x).2) (hx : x.action ≠ .feed) :
    (c.step x).2.running? = c.running? := by
  cases hr : c.running? with
  | none => exact hs.running?_eq_none_iff.2 hr
  | some r =>
      have hrequest : x.action.isRequest = true → (c.step x).2.running? = some r := by
        intro hx
        rcases ends_or_refused hn hx with h | ⟨r', -, he⟩
        · obtain ⟨_, _, _, he, -⟩ := h.exists_eq
          rw [he]
          exact hr
        · rw [hs.running?_eq_none_iff.1 he.gone] at hr
          cases hr
      cases ha : x.action with
      | start device =>
          rw [step, ha]
          change (c.start device x.now x.host).2.1.running? = _
          rcases hn.start_cases device x.now x.host with he | ⟨_, ho, -⟩
          · rw [he]
            exact hr
          · rw [ho.running?_eq] at hr
            cases hr
      | stop _ | depart | close => exact hrequest (by rw [ha]; rfl)
      | feed => exact absurd ha hx
      | clear =>
          rw [step, ha]
          change (c.clear x.now x.host).2.1.running? = _
          unfold clear
          dsimp only
          split <;> exact hr
      | configure source =>
          rw [step, ha]
          change (c.configure source x.now x.host).2.1.running? = _
          unfold configure
          dsimp only
          split <;> exact hr
      | tick =>
          rw [step, ha]
          change (c.tick x.now x.host).1.running? = _
          unfold tick
          split <;> exact hr
      | subscribe =>
          obtain ⟨packets, hc⟩ := hn.exists_channel
          rw [step, ha]
          change c.subscribe.2.running? = _
          rw [subscribe_eq hc]
          exact hr
      | _ =>
          rw [step, ha]
          exact hr

/-- What a feeder finds once it has come to its end stays so. -/
theorem Settled.step (h : c.Settled) (hn : c.Numbered) (hg : c.Guarded) (hf : c.Fair x) :
    (c.step x).2.Settled := by
  intro r packets' hr hfeeding hp'
  cases moves_step hn x with
  | opens device packets _ _ _ he =>
      rw [he] at hr
      obtain rfl := Option.some.inj hr
      cases hfeeding
  | ends r' _ he =>
      rw [he.gone] at hr
      cases hr
  | still hs =>
      obtain ⟨r₀, hr₀, -, hchannel, hqueue⟩ := hs.exists_running hr
      rw [← hchannel] at hp'
      rw [← hqueue]
      obtain ⟨packets, hp⟩ := hn.exists_channel
      rw [← (hn.running_eq r₀ hr₀).2.1] at hp
      obtain ⟨xs, hc⟩ := exists_conducts hn hg hf hp
      obtain rfl := Option.some.inj (hc.channel_eq.symm.trans hp')
      have hsame : (c.step x).2.running? = c.running? →
          packets.closed = true ∧ packets.itemsAt r₀.queue = [] := by
        intro he
        rw [he, hr₀] at hr
        obtain rfl := Option.some.inj hr
        exact h r₀ packets hr₀ hfeeding hp
      have hbefore : packets.closed = true ∧ packets.itemsAt r₀.queue = [] := by
        by_cases hx : x.action = .feed
        · have hstep : (c.step x).2 = c.feed := by
            rw [Controller.step, hx]
            rfl
          rcases c.feed_cases with he | ⟨r₁, packets₁, hr₁, -, hp₁, -, -, he | ⟨ht, -⟩⟩
          · exact hsame (by rw [hstep, he])
          · exact hsame (hstep ▸ he)
          · obtain rfl := Option.some.inj (hr₀.symm.trans hr₁)
            obtain rfl := Option.some.inj (hp.symm.trans hp₁)
            exact (hg.wellFormed _ _ hp).toSound.of_take_ended ht
        · exact hsame (running?_step hn hs hx)
      exact Channel.itemsAt_actAll_of_closed hbefore.1 hbefore.2 (hg.queue_lt hr₀ hp) xs

theorem Settled.after (h : c.Settled) (hn : c.Numbered) (hg : c.Guarded) {steps : List (Step σ)}
    (hf : c.Throughout Fair steps) : (c.after steps).Settled := by
  induction steps generalizing c with
  | nil => exact h
  | cons x steps ih => exact ih (h.step hn hg hf.1) (hn.step x) (hg.step hn hf.1) hf.2

/-! ## A session from its beginning to its end -/

/-- A session that runs after some steps ran all the time. -/
theorem Numbered.still_of_current? (hn : c.Numbered) {r : Running} (hr : c.running? = some r)
    {rest : List (Step σ)} (hlast : ((c.step x).2.after rest).current? = some r.id) :
    Still c (c.step x).2 := by
  cases moves_step hn x with
  | still hs => exact hs
  | opens device packets _ hidle _ _ =>
      rw [hr] at hidle
      cases hidle
  | ends r' _ he =>
      obtain ⟨r'', hr'', hid⟩ := Option.map_eq_some_iff.1 hlast
      have hle := (hn.step x).channel_le rest
      have hrid := (hn.running_eq r hr).1
      have hrid' := (((hn.step x).after rest).running_eq r'' hr'').1
      rw [he.channel_eq, hn.length_eq] at hle
      omega

/-- Along a session its feeder's queue is sent what the reader sends, and what it hands out is
counted. -/
theorem exists_recorded (hn : c.Numbered) (hg : c.Guarded) {during : List (Step σ)}
    (hf : c.Throughout Fair during) (hreset : ∀ z ∈ during, z.action.isReset = false)
    {r : Running} (hr : c.running? = some r) (hlast : (c.after during).current? = some r.id)
    {packets : Packets} (hp : c.bridge.channel? r.channel = some packets)
    (hm : c.aggregator.native = false) :
    ∃ xs r', (c.after during).running? = some r' ∧ r'.id = r.id ∧ r'.channel = r.channel ∧
      r'.queue = r.queue ∧
      (c.after during).bridge.channel? r.channel = some (packets.actAll xs) ∧
      packets.sentAll r.queue xs = c.gather (sentAt r.channel) during ∧
      (c.after during).aggregator.native = false ∧
      (c.after during).aggregator.counters =
        c.aggregator.counters.recordAll (packets.handedAll r.queue xs) := by
  induction during generalizing c packets r with
  | nil => exact ⟨[], r, hr, rfl, rfl, rfl, hp, rfl, hm, rfl⟩
  | cons z during ih =>
      have hz := hreset z List.mem_cons_self
      have hs := hn.still_of_current? hr hlast
      obtain ⟨r₁, hr₁⟩ : ∃ r₁, (c.step z).2.running? = some r₁ := by
        rw [← Option.isSome_iff_exists, hs.isSome_running_eq, hr]
        rfl
      obtain ⟨r₀, hr₀, hid, hchannel, hqueue⟩ := hs.exists_running hr₁
      obtain rfl := Option.some.inj (hr.symm.trans hr₀)
      obtain ⟨xs, hc⟩ := exists_conducts hn hg hf.1 hp
      have hp₁ := hc.channel_eq
      rw [hchannel] at hp₁
      have hm₁ : (c.step z).2.aggregator.native = false :=
        aggregator_step Aggregator.isKept_managed hn hz hm
      obtain ⟨ys, r', hr', hid', hchannel', hqueue', hp', hsent, hm', hcounters⟩ :=
        ih (hn.step z) (hg.step hn hf.1) hf.2
          (fun y hy => hreset y (List.mem_cons_of_mem z hy)) hr₁ (hid ▸ hlast) hp₁ hm₁
      rw [← hqueue, ← hchannel] at hsent
      rw [← hqueue, hc.recorded_eq r hr rfl hz hm, ← Counters.recordAll_append] at hcounters
      refine ⟨xs ++ ys, r', hr', hid'.trans hid.symm, hchannel'.trans hchannel.symm,
        hqueue'.trans hqueue.symm, ?_, ?_, hm', ?_⟩
      · rw [Channel.actAll_append, hchannel]
        exact hp'
      · rw [Channel.sentAll_append, hsent, hc.sent_eq _ (hg.queue_lt hr hp), gather]
      · rw [Channel.handedAll_append]
        exact hcounters

/-- A session ends with all counted that its feeder has not been handed yet. -/
theorem Settled.unread_eq (h : c.Settled) {r : Running} (hr : c.running? = some r)
    {packets : Packets} (hp : c.bridge.channel? r.channel = some packets) :
    c.unread r = packets.itemsAt r.queue := by
  rw [unread, queued_eq hp]
  cases hfeeding : r.feeding with
  | true => rfl
  | false => exact (h r packets hr hfeeding hp).2.symm

omit [CaptureHost σ] in
/-- The last snapshot of a session is that of the own counters, if they are in use. -/
theorem Ended.exists_snapshot {r : Running} {now : Moment} {closing : Prop} {c' : Controller}
    (he : Ended σ c r now closing c') (hfeed : c'.aggregator.feed? = none) :
    ∃ rate,
      let snapshot := Snapshot.ofTally (c'.aggregator.counters.tally c'.aggregator.cfg) rate
        (c'.aggregator.elapsed now.instant) now.clock
      c'.latest? = some snapshot ∧ (c'.publisher = (c.publisher.publish (.ok snapshot)).2 ∨
        closing ∧ c'.publisher = (c.publisher.publish (.ok snapshot)).2.close) := by
  obtain ⟨s, hpub⟩ := he.published
  obtain ⟨rate, htick⟩ := Aggregator.exists_tick_of_managed hfeed now s
  rw [htick] at hpub
  refine ⟨rate, ?_, hpub⟩
  rw [latest?]
  rcases hpub with hpub | ⟨-, hpub⟩
  · rw [hpub, Publisher.latest?_publish_ok]
  · rw [hpub]
    exact Publisher.latest?_publish_ok _ _

/-- A session begins with a new queue of the channel that is current. -/
theorem Numbered.exists_opened (hn : c.Numbered) (hidle : c.running? = none) {r : Running}
    (hr : (c.step x).2.running? = some r) :
    ∃ device, ∃ packets : Packets, x.action = .start device ∧
      c.bridge.channel? c.channel = some packets ∧
      r = ⟨c.channel, c.channel, packets.queues.length, true⟩ ∧
      (c.step x).2.bridge.channel? c.channel = some packets.subscribe.2 ∧
      (c.step x).2.aggregator = c.aggregator.begin x.now.instant := by
  cases moves_step hn x with
  | still hs =>
      rw [hs.running?_eq_none_iff.2 hidle] at hr
      cases hr
  | opens device packets ha _ hp he =>
      have hsessions := hn.sessions_eq_of_idle hidle
      rw [he] at hr ⊢
      refine ⟨device, packets, ha, hp, ?_, ?_, rfl⟩
      · have hnew : some (⟨c.sessions, c.channel, packets.queues.length, true⟩ : Running) = some r :=
          hr
        rw [hsessions] at hnew
        exact (Option.some.inj hnew).symm
      · change (c.bridge.modifyChannel c.channel fun _ => packets.subscribe.2).channel? _ = _
        rw [Bridge.channel?_modifyChannel, hp, Option.map_some, if_pos rfl]
  | ends r' _ he =>
      rw [he.running_eq] at hidle
      cases hidle

theorem Numbered.ended_of_gone (hn : c.Numbered) {r : Running} (hr : c.running? = some r)
    (hgone : (c.step x).2.running? = none) :
    x.action.EndsSession c r.id ∧ Ended σ c r x.now (c.Closes x) (c.step x).2 := by
  cases moves_step hn x with
  | still hs =>
      rw [hs.running?_eq_none_iff.1 hgone] at hr
      cases hr
  | opens device packets _ hidle _ _ =>
      rw [hr] at hidle
      cases hidle
  | ends r' ha he =>
      obtain rfl := Option.some.inj (hr.symm.trans he.running_eq)
      exact ⟨ha, he⟩

/-- The reader of a session sends nothing before the session and in its first and last
step. -/
theorem Numbered.gather_sentAt_session (hn : c.Numbered) {idle during : List (Step σ)}
    {begins ends : Step σ} {id device : Nat} (hid : (c.after idle).sessions ≤ id)
    (hbegins : begins.action = .start device)
    (hends : ends.action.EndsSession (c.after (idle ++ begins :: during)) id) :
    c.gather (sentAt id) (idle ++ begins :: (during ++ [ends])) =
      ((c.after idle).step begins).2.gather (sentAt id) during := by
  have hbegin : sentAt id (c.after idle) begins = [] := by rw [sentAt, hbegins]
  have hend : sentAt id (((c.after idle).step begins).2.after during) ends = [] := by
    refine sentAt_of_isRequest ?_
    cases ha : ends.action with
    | stop _ | depart | close => rfl
    | _ =>
        rw [ha] at hends
        cases hends
  rw [gather_append, hn.gather_sentAt_of_le hid, gather, hbegin, gather_concat, hend]
  rw [List.nil_append, List.nil_append, List.append_nil]

/-- The own counters have counted at the end of a session what the feeder's queue was sent and
has not dropped. -/
theorem Guarded.exists_counted (hg : c.Guarded) (hn : c.Numbered) (hset : c.Settled)
    {during : List (Step σ)} {begins ends : Step σ} {r : Running}
    (hfair : c.Throughout Fair (begins :: during)) (hidle : c.running? = none)
    (hm : c.aggregator.native = false) (hbegun : (c.step begins).2.running? = some r)
    (hreset : ∀ x ∈ during, x.action.isReset = false)
    (hruns : ((c.step begins).2.after during).current? = some r.id)
    (hended : (((c.step begins).2.after during).step ends).2.running? = none) :
    let c₁ := (c.step begins).2
    let sent := c₁.gather (sentAt r.id) during
    let a := ((c₁.after during).step ends).2.aggregator
    ∃ packets q counted lost,
      (c₁.after during).bridge.channel? r.id = some packets ∧
        packets.queue? r.queue = some q ∧ a.native = false ∧
        a.counters = c.aggregator.counters.recordAll counted ∧
        counted.Sublist sent ∧ sent.Perm (counted ++ lost) ∧ lost.length = q.dropped ∧
        q.items <:+ counted := by
  intro c₁ sent a
  obtain ⟨device, packets₀, -, hp₀, hr, hp₁, hagg⟩ := hn.exists_opened hidle hbegun
  have hn₁ : c₁.Numbered := hn.step begins
  have hg₁ : c₁.Guarded := hg.step hn hfair.1
  have hchannel : r.channel = c.channel := by rw [hr]
  have hid : r.id = r.channel := by rw [hr]
  have hnew : packets₀.subscribe.2.queue? r.queue =
      some ⟨[], packets₀.closed, 0, 1, !packets₀.closed⟩ := by
    rw [hr]
    exact packets₀.queue?_subscribe
  rw [← hchannel] at hp₁
  obtain ⟨xs, r', hr', -, hchannel', hqueue', hp, hsent, hm', hcounters⟩ :=
    exists_recorded hn₁ hg₁ hfair.2 hreset hbegun hruns hp₁ (hagg ▸ hm)
  have hn₂ := hn₁.after during
  have hg₂ := hg₁.after hn₁ hfair.2
  have hset₂ := (hset.step hn hg hfair.1).after hn₁ hg₁ hfair.2
  -- What the queue of the feeder was sent is accounted for.
  obtain ⟨q, hq, hsub, haccount⟩ := Channel.account_actAll_of_new
    (hg₁.wellFormed r.channel _ hp₁).toSound hnew rfl rfl xs
  have hpos : 0 < q.holders := by
    have hs := hg₂.feeder r' _ hr' (hchannel' ▸ hp)
    have hh := Channel.holdersAt_pos_of_spare hs
    rwa [hqueue', Channel.holdersAt_of_some hq] at hh
  have hserved := (hg₂.wellFormed r.channel _ hp).isServed hq hpos
  obtain ⟨lost, hlost, hperm⟩ := (haccount hserved).exists_lost
  -- What it still holds is counted in the end.
  have hunread : (c₁.after during).unread r' = q.items := by
    rw [hset₂.unread_eq hr' (hchannel' ▸ hp), hqueue', Channel.itemsAt_of_some hq]
  have hbefore : c₁.aggregator.counters = c.aggregator.counters :=
    (congrArg Aggregator.counters hagg).trans rfl
  have hlast : a = _ := (hn₂.ended_of_gone hr' hended).2.aggregator_eq
  rw [Aggregator.recordAll_of_managed hm', hunread, hcounters, hbefore,
    ← Counters.recordAll_append] at hlast
  rw [hsent] at hsub hperm
  rw [← hid] at hsub hperm hp
  refine ⟨_, q, _, lost, hp, hq, ?_, ?_, hsub, hperm, hlost, List.suffix_append _ _⟩
  · rw [hlast]
    exact hm'
  · rw [hlast]
    rfl

/-- Of what the reader of a session sends with success nothing is left uncounted but what the
queue of the feeder drops.  This holds of a session that has its statistics from the own
counters, which are not started anew in between, whatever else comes in whatever order.  What
the queue still holds in the end is counted as well, and the last snapshot is made of it
all. -/
theorem session_accounts_for_records (cfg : SessionConfig) (feed? : Option Nat)
    {idle during : List (Step σ)} {begins ends : Step σ} {r : Running}
    (hfair : (make cfg feed?).Throughout Fair (idle ++ begins :: (during ++ [ends])))
    (hidle : ((make cfg feed?).after idle).running? = none)
    (hsource : ((make cfg feed?).after idle).aggregator.source = .managed)
    (hbegun : ((make cfg feed?).after (idle ++ [begins])).running? = some r)
    (hreset : ∀ x ∈ during, x.action.isReset = false)
    (hruns : ((make cfg feed?).after (idle ++ begins :: during)).current? = some r.id)
    (hended : ((make cfg feed?).after (idle ++ begins :: (during ++ [ends]))).running? = none) :
    let start := make cfg feed?
    let before := (start.after idle).aggregator.counters
    let c := start.after (idle ++ begins :: during)
    let c' := start.after (idle ++ begins :: (during ++ [ends]))
    let after := c'.aggregator.counters
    let sent := start.gather (sentAt r.id) (idle ++ begins :: (during ++ [ends]))
    ∃ packets q earlier counted lost rate,
      let snapshot := Snapshot.ofTally (after.tally cfg.stats) rate
        (c'.aggregator.elapsed ends.now.instant) ends.now.clock
      c.bridge.channel? r.id = some packets ∧ packets.queue? r.queue = some q ∧
        before.Counted earlier ∧ after.Counted (earlier ++ counted) ∧
        counted.Sublist sent ∧ sent.Perm (counted ++ lost) ∧ lost.length = q.dropped ∧
        q.items <:+ counted ∧ before.Balanced after sent lost ∧
        after.Shows (after.tally cfg.stats) ∧ c'.latest? = some snapshot ∧
        (c'.publisher = (c.publisher.publish (.ok snapshot)).2 ∨
          c.Closes ends ∧ c'.publisher = (c.publisher.publish (.ok snapshot)).2.close) ∧
        snapshot.packets =
          before.packets + UInt64.ofNat sent.length - UInt64.ofNat q.dropped ∧
        snapshot.bytes = before.bytes + UInt64.ofNat (Counters.bytesOf sent) -
          UInt64.ofNat (Counters.bytesOf lost) := by
  intro start before c c' after sent
  have hmake : start.Numbered := numbered_make cfg feed?
  have hguarded : start.Guarded := guarded_make cfg feed?
  obtain ⟨hfair₀, hfair₁⟩ := throughout_append.1 hfair
  have hn₀ := hmake.after idle
  have hg₀ := hguarded.after hmake hfair₀
  have hset₀ := (settled_make cfg feed?).after hmake hguarded hfair₀
  have hc : c = ((start.after idle).step begins).2.after during := after_append _ _ _
  have hc' : c' = (c.step ends).2 := by
    rw [hc, ← after_concat]
    exact after_append _ _ _
  rw [← List.cons_append, throughout_append] at hfair₁
  have hm : (start.after idle).aggregator.native = false := by
    rw [Aggregator.source] at hsource
    cases hn : (start.after idle).aggregator.native with
    | false => rfl
    | true =>
        rw [hn] at hsource
        cases hsource
  have hbegun' : ((start.after idle).step begins).2.running? = some r := by
    rwa [after_concat] at hbegun
  have hended' : (c.step ends).2.running? = none := hc' ▸ hended
  have hn : c.Numbered := hmake.after _
  obtain ⟨r', hr', hid'⟩ := Option.map_eq_some_iff.1 hruns
  obtain ⟨hends, he⟩ := hn.ended_of_gone hr' hended'
  obtain ⟨device, _, hbegins, -, hr, -⟩ := hn₀.exists_opened hidle hbegun'
  obtain ⟨packets, q, counted, lost, hp, hq, hm', hcounters, hsub, hperm, hlost, hsuffix⟩ :=
    hg₀.exists_counted hn₀ hset₀ hfair₁.1 hidle hm hbegun' hreset (hc ▸ hruns) (hc ▸ hended')
  rw [← hc, ← hc'] at hm' hcounters
  rw [← hc] at hp
  -- What the reader has sent it has sent during the session.
  have hsent : sent = ((start.after idle).step begins).2.gather (sentAt r.id) during := by
    refine hmake.gather_sentAt_session ?_ hbegins (hid' ▸ hends)
    rw [hn₀.sessions_eq_of_idle hidle, hr]
  rw [← hsent] at hsub hperm
  obtain ⟨earlier, hearlier⟩ :=
    aggregator_after Aggregator.isInvariant_tallied hmake (Aggregator.tallied_make cfg.stats) idle
  have hcfg : c'.aggregator.cfg = cfg.stats :=
    aggregator_after (Aggregator.isInvariant_cfg cfg.stats) hmake rfl _
  have hafter : after.Counted (earlier ++ counted) := by
    rw [show after = _ from hcounters]
    exact hearlier.recordAll counted
  have hbalanced := hearlier.balanced hafter hperm
  have hfeed : c'.aggregator.feed? = none := by
    have ha : c'.aggregator.native = c'.aggregator.feed?.isSome := (hmake.after _).aligned
    rw [hm'] at ha
    exact Option.isNone_iff_eq_none.1 (Option.isSome_eq_false_iff.1 ha.symm)
  rw [← hc'] at he
  obtain ⟨rate, hlatest, hpublisher⟩ := he.exists_snapshot hfeed
  rw [hcfg] at hlatest hpublisher
  refine ⟨packets, q, earlier, counted, lost, rate, hp, hq, hearlier, hafter, hsub, hperm, hlost,
    hsuffix, hbalanced, hafter.shows cfg.stats, hlatest, hpublisher, ?_, hbalanced.bytes_eq⟩
  rw [← hlost]
  exact hbalanced.packets_eq

/-- A record that the feeder has not been handed when the session is stopped is in the last
snapshot. -/
theorem session_accounts_for_records_unread :
    let steps := [unhurried (.start 3), unhurried (.deliver 0 [.data (Frame.encode default)])]
    let c := (make default none).after steps
    c.aggregator.counters.packets = 0 ∧
      ∃ snapshot, (c.step (unhurried (.stop none))).2.latest? = some snapshot ∧
        snapshot.packets = 1 := by
  obtain ⟨bytes, record, hbytes, -, hl, hd, hb⟩ := exists_default_frame
  rw [hbytes]
  intro steps c
  have hregular : (make default none).Throughout Regular
      ([] ++ unhurried (.start 3) :: ([unhurried (.deliver 0 [.data bytes])] ++
        [unhurried (.stop none)])) :=
    ⟨regular_of_ne nofun nofun, regular_of_ne nofun nofun, regular_of_ne nofun nofun, trivial⟩
  have hreset : ∀ x ∈ [unhurried (.deliver 0 [.data bytes])], x.action.isReset = false :=
    List.forall_mem_singleton.2 rfl
  obtain ⟨packets, q, earlier, counted, lost, rate, hp, hq, -, -, -, -, -, -, -, -, hlatest, -,
    hpackets, -⟩ := session_accounts_for_records default none
      (r := ⟨0, 0, 0, true⟩) (hregular.mono fun _ _ hx => hx.1) rfl rfl rfl hreset rfl rfl
  let c₁ := ((make default none).step (unhurried (.start 3))).2
  let made : Packets := Channel.make (default : SessionConfig).capture.capacity
    (default : SessionConfig).capture.batch
  have hworker : c₁.bridge.workers[0]? = some ⟨0, Capture.Reader.start⟩ := rfl
  have hchannel : c₁.bridge.channel? 0 = some made.subscribe.2 := rfl
  obtain ⟨hsent, hdeliver⟩ := Bridge.deliver_frame hworker hchannel rfl hl hd hb
  have hqueue : q.dropped = 0 := by
    change (c₁.bridge.deliver 0 [.data bytes]).channel? 0 = some packets at hp
    rw [hdeliver] at hp
    obtain rfl := Option.some.inj hp
    obtain rfl := Option.some.inj hq
    rfl
  have hsentAll : (make default none).gather (sentAt 0) ([] ++ unhurried (.start 3) ::
      ([unhurried (.deliver 0 [.data bytes])] ++ [unhurried (.stop none)])) = [record] := by
    rw [List.nil_append, gather, gather_concat, gather, gather]
    change [] ++ ((c₁.bridge.sentBy 0 [.data bytes] ++ []) ++ []) = [record]
    rw [hsent]
    rfl
  have hbefore : ((make default none).after ([] : List (Step Unhurried))).aggregator.counters =
      Counters.empty := rfl
  rw [hqueue, hsentAll, hbefore, List.length_singleton] at hpackets
  exact ⟨rfl, _, hlatest, hpackets.trans (by decide)⟩

end Controller

end PacketMeter.Session
