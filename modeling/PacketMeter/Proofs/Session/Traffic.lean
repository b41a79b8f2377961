import PacketMeter.Proofs.Channel.Targets
import PacketMeter.Proofs.Session.Numbering

/-!
# What goes through the channels of a controller

Whatever is done to a controller, each of its channels goes through some actions, which
`Conducts` ties to the step.  What they send is what the reader of that channel sends with
success.  What they hand out of a queue is what subscribers take from it, or, out of the
queue of the feeder, what is recorded.

All of this is for fair steps, in which subscribers act on what they hold and leave the queue
of the feeder alone.  The channels are well-formed then, and the feeder keeps its queue as
long as its session runs.
-/

namespace PacketMeter.Session

open PacketMeter.Capture (Bridge Packets)
open PacketMeter.Stats

/-- Whether an action starts the statistics anew. -/
def Action.isReset : Action → Bool
  | .clear | .configure _ => true
  | _ => false

namespace Controller

variable {σ : Type} [FeedHost σ] [CaptureHost σ] {c : Controller} {x : Step σ}

/-- The records that the reader of a channel sends with success in a step. -/
def sentAt (i : Nat) (c : Controller) (x : Step σ) : List PacketRecord :=
  match x.action with
  | .deliver worker script => if worker = i then c.bridge.sentBy worker script else []
  | _ => []

/-- The records that subscribers are handed out of a queue in a step. -/
def handedAt (i queue : Nat) (c : Controller) (x : Step σ) : List PacketRecord :=
  match x.action with
  | .onPackets j action =>
      if j = i then
        match c.bridge.channel? i with
        | some packets => packets.handed queue action
        | none => []
      else []
  | _ => []

/-- Whether subscribers act on queues that they hold, and not on that of the feeder. -/
def Fair (c : Controller) (x : Step σ) : Prop :=
  ∀ i a packets, x.action = .onPackets i a → c.bridge.channel? i = some packets →
    a.isHolders = true ∧ packets.Allowed a ∧
      ∀ r, c.running? = some r → r.channel = i → packets.target a ≠ some r.queue

/-- Channels are well-formed, and the feeder of the session that runs holds its queue. -/
structure Guarded (c : Controller) : Prop where
  wellFormed : ∀ i packets, c.bridge.channel? i = some packets → packets.WellFormed
  feeder : ∀ r packets, c.running? = some r → c.bridge.channel? r.channel = some packets →
    0 < packets.spare r.queue

/-- The actions that a channel goes through in a step. -/
structure Conducts (c : Controller) (x : Step σ) (i : Nat) (packets : Packets)
    (xs : List (Channel.Action PacketRecord)) : Prop where
  channel_eq : (c.step x).2.bridge.channel? i = some (packets.actAll xs)
  allowed : packets.AllowedAll xs
  sent_eq : ∀ q < packets.queues.length, packets.sentAll q xs = sentAt i c x
  handed_eq : ∀ q, (∀ r, c.running? = some r → r.channel = i → r.queue ≠ q) →
    packets.handedAll q xs = handedAt i q c x
  recorded_eq : ∀ r, c.running? = some r → r.channel = i → x.action.isReset = false →
    c.aggregator.native = false → (c.step x).2.aggregator.counters =
      c.aggregator.counters.recordAll (packets.handedAll r.queue xs)
  spare_eq : ∀ r, c.running? = some r → r.channel = i → (c.step x).2.running?.isSome →
    (packets.actAll xs).spare r.queue = packets.spare r.queue
  open_of : c.running? = none → i = c.channel → ¬ c.Closes x →
    xs.any Channel.Action.closes = false

section Conducts

variable {i : Nat} {packets : Packets} {xs : List (Channel.Action PacketRecord)}

theorem Guarded.queue_lt (hg : c.Guarded) {r : Running} (hr : c.running? = some r)
    (hp : c.bridge.channel? r.channel = some packets) : r.queue < packets.queues.length := by
  have hs := Channel.holdersAt_pos_of_spare (hg.feeder r packets hr hp)
  obtain ⟨q, hq, -⟩ := Channel.exists_queue_of_holdersAt hs
  exact Channel.lt_length_iff.2 ⟨q, hq⟩

/-- A step that at most closes channels, adds queues and records nothing. -/
theorem Conducts.of_plain (hg : c.Guarded) (hp : c.bridge.channel? i = some packets)
    (hc : (c.step x).2.bridge.channel? i = some (packets.actAll xs))
    (hx : ∀ a ∈ xs, a = .close ∨ a = .subscribe) (hs : sentAt i c x = [])
    (hh : ∀ q, handedAt i q c x = [])
    (ha : x.action.isReset = false → c.running?.isSome →
      (c.step x).2.aggregator.counters = c.aggregator.counters)
    (ho : c.running? = none → i = c.channel → ¬ c.Closes x →
      xs.any Channel.Action.closes = false) : Conducts c x i packets xs := by
  have hquiet : ∀ a ∈ xs, a.isQuiet = true := by
    intro a ha
    rcases hx a ha with rfl | rfl <;> rfl
  refine ⟨hc, Channel.allowedAll_of_isFree ?_ _, ?_, ?_, ?_, ?_, ho⟩
  · intro a ha
    rcases hx a ha with rfl | rfl <;> rfl
  · intro q _
    rw [hs, Channel.sentAll_of_quiet hquiet]
  · intro q _
    rw [hh, Channel.handedAll_of_quiet hquiet]
  · intro r hr _ hreset _
    rw [Channel.handedAll_of_quiet hquiet, ha hreset (by rw [hr]; rfl)]
    rfl
  · rintro r hr rfl -
    refine (hg.wellFormed _ _ hp).spare_actAll ?_ (hg.queue_lt hr hp)
    intro a ha
    rcases hx a ha with rfl | rfl <;> rfl

/-- A step that leaves the channels and the counters alone. -/
theorem Conducts.of_rest (hg : c.Guarded) (hp : c.bridge.channel? i = some packets)
    (hb : (c.step x).2.bridge.channels = c.bridge.channels) (hs : sentAt i c x = [])
    (hh : ∀ q, handedAt i q c x = [])
    (ha : x.action.isReset = false → c.running?.isSome →
      (c.step x).2.aggregator.counters = c.aggregator.counters) : Conducts c x i packets [] := by
  refine .of_plain hg hp ?_ (by simp) hs hh ha fun _ _ _ => rfl
  rw [Bridge.channel?, hb]
  exact hp

/-- A step of a running session that has to do with other channels. -/
theorem Conducts.of_elsewhere {r : Running} (hr : c.running? = some r) (hi : i ≠ r.channel)
    (hc : (c.step x).2.bridge.channel? i = some packets) (hs : sentAt i c x = [])
    (hh : ∀ q, handedAt i q c x = []) : Conducts c x i packets [] := by
  have hne : ∀ r', c.running? = some r' → r'.channel ≠ i := by
    rintro r' hr' rfl
    obtain rfl := Option.some.inj (hr.symm.trans hr')
    exact hi rfl
  refine ⟨hc, trivial, fun q _ => hs.symm, fun q _ => (hh q).symm, ?_, ?_, fun _ _ _ => rfl⟩
  · exact fun r' hr' h => absurd h (hne r' hr')
  · exact fun r' hr' h => absurd h (hne r' hr')

theorem conducts_onPackets (hg : c.Guarded) (hf : c.Fair x)
    (hp : c.bridge.channel? i = some packets) {j : Nat} {a : Channel.Action PacketRecord}
    (hx : x.action = .onPackets j a) :
    Conducts c x i packets (Bridge.on j [a] i) := by
  have hstep : (c.step x).2 = { c with bridge := c.bridge.modifyChannel j (·.act a) } := by
    rw [step, hx]
    rfl
  have hacts : Bridge.Acts c.bridge (c.step x).2.bridge (Bridge.on j [a]) := by
    rw [hstep]
    exact Bridge.acts_modifyChannel fun _ _ => rfl
  have hsent : sentAt i c x = [] := by rw [sentAt, hx]
  by_cases hj : i = j
  · subst hj
    obtain ⟨hh, hallowed, hfeeder⟩ := hf i a packets hx hp
    rw [Bridge.on_self]
    refine ⟨?_, ⟨hallowed, trivial⟩, ?_, ?_, ?_, ?_, ?_⟩
    · rw [hacts i packets hp, Bridge.on_self]
    · intro q _
      rw [hsent, Channel.sentAll, Channel.accepted_of_isHolders hh, ite_self]
      rfl
    · intro q _
      rw [handedAt, hx]
      dsimp only
      rw [if_pos rfl, hp, Channel.handedAll, Channel.handedAll, List.append_nil]
    · intro r hr hri _ _
      rw [Channel.handedAll, Channel.handed_of_target_ne (hfeeder r hr hri), hstep]
      rfl
    · intro r hr hri _
      exact (hg.wellFormed i packets hp).spare_act_of_target_ne hallowed hh (hfeeder r hr hri)
    · intro _ _ _
      rw [List.any_cons, Channel.closes_of_isHolders hh]
      rfl
  · rw [Bridge.on_of_ne hj]
    refine .of_plain hg hp ?_ (by simp) hsent ?_ (fun _ _ => by rw [hstep]) fun _ _ _ => rfl
    · rw [hacts i packets hp, Bridge.on_of_ne hj]
    · intro q
      rw [handedAt, hx]
      exact if_neg fun h => hj h.symm

theorem Numbered.worker_none (hn : c.Numbered) (hr : c.running? = none) :
    c.bridge.workers[c.channel]? = none := by
  have hl := congrArg List.length hn.workers_eq
  have hs := hn.sessions_eq
  rw [List.length_map, List.length_range] at hl
  rw [hr] at hs
  rw [List.getElem?_eq_none_iff, hl]
  exact hs.le

theorem sentBy_of_closed (hn : c.Numbered) (hp : c.bridge.channel? i = some packets)
    (hc : packets.closed = true) (script : List Delivery) : c.bridge.sentBy i script = [] := by
  rw [Bridge.sentBy]
  split
  · rfl
  · rename_i w hw
    rw [hn.serves i w hw, hp]
    exact Capture.Reader.sends_of_closed hc script

theorem exists_conducts_deliver (hn : c.Numbered) (hg : c.Guarded)
    (hp : c.bridge.channel? i = some packets) {worker : Nat} {script : List Delivery}
    (hx : x.action = .deliver worker script) : ∃ xs, Conducts c x i packets xs := by
  have hstep : (c.step x).2 = c.deliver worker script := by
    rw [step, hx]
    rfl
  obtain ⟨closes, hcl, hnone, hacts⟩ :=
    Bridge.exists_acts_deliver (hn.serves worker) script
  have hhanded : ∀ q, handedAt i q c x = [] := fun q => by rw [handedAt, hx]
  have hquiet : ∀ a ∈ closes, a.isQuiet = true := fun a ha => hcl a ha ▸ rfl
  by_cases hi : i = worker
  · subst hi
    refine ⟨(c.bridge.sentBy i script).map .send ++ closes, ?_⟩
    have hh : ∀ q, packets.handedAll q ((c.bridge.sentBy i script).map .send ++ closes) = [] := by
      intro q
      rw [Channel.handedAll_append, Channel.handedAll_map_send, Channel.handedAll_of_quiet hquiet]
      rfl
    refine ⟨?_, Channel.allowedAll_of_isFree ?_ _, ?_, ?_, ?_, ?_, ?_⟩
    · rw [hstep]
      exact (hacts i packets hp).trans (by rw [Bridge.on_self])
    · intro a ha
      rcases List.mem_append.1 ha with ha | ha
      · obtain ⟨record, -, rfl⟩ := List.mem_map.1 ha
        rfl
      · exact hcl a ha ▸ rfl
    · intro q hq
      rw [Channel.sentAll_append, Channel.sentAll_map_send, if_pos hq,
        Channel.sentAll_of_quiet hquiet, List.append_nil, sentAt, hx]
      dsimp only
      rw [if_pos rfl]
      split
      · rename_i hc
        exact (sentBy_of_closed hn hp hc script).symm
      · rfl
    · intro q _
      rw [hh, hhanded]
    · intro r _ _ _ _
      rw [hh, hstep]
      rfl
    · rintro r hr rfl -
      refine (hg.wellFormed _ _ hp).spare_actAll ?_ (hg.queue_lt hr hp)
      intro a ha
      rcases List.mem_append.1 ha with ha | ha
      · obtain ⟨record, -, rfl⟩ := List.mem_map.1 ha
        rfl
      · exact hcl a ha ▸ rfl
    · rintro hr rfl -
      rw [hnone (hn.worker_none hr), List.append_nil, List.any_eq_false]
      intro a ha
      obtain ⟨record, -, rfl⟩ := List.mem_map.1 ha
      exact Bool.false_ne_true
  · refine ⟨[], .of_plain hg hp ?_ (by simp) ?_ hhanded (fun _ _ => by rw [hstep]; rfl)
      fun _ _ _ => rfl⟩
    · rw [hstep]
      exact (hacts i packets hp).trans (by rw [Bridge.on_of_ne hi])
    · rw [sentAt, hx]
      exact if_neg fun h => hi h.symm

theorem exists_conducts_disconnect (hn : c.Numbered) (hg : c.Guarded)
    (hp : c.bridge.channel? i = some packets) {worker : Nat}
    (hx : x.action = .disconnect worker) : ∃ xs, Conducts c x i packets xs := by
  have hstep : (c.step x).2 = c.disconnect worker := by
    rw [step, hx]
    rfl
  obtain ⟨closes, hcl, hnone, hacts⟩ :=
    Bridge.exists_acts_disconnect (hn.serves worker)
  refine ⟨Bridge.on worker closes i, .of_plain hg hp ?_ ?_ (by rw [sentAt, hx])
    (fun q => by rw [handedAt, hx]) (fun _ _ => by rw [hstep]; rfl) ?_⟩
  · rw [hstep]
    exact hacts i packets hp
  · exact fun a ha => .inl (hcl a (Bridge.mem_of_mem_on ha))
  · rintro hr rfl -
    by_cases hi : c.channel = worker
    · rw [hnone (hi ▸ hn.worker_none hr), Bridge.on_nil]
      rfl
    · rw [Bridge.on_of_ne hi]
      rfl

theorem conducts_subscribe (hn : c.Numbered) (hg : c.Guarded)
    (hp : c.bridge.channel? i = some packets) (hx : x.action = .subscribe) :
    Conducts c x i packets (Bridge.on c.channel [.subscribe] i) := by
  obtain ⟨current, hcurrent⟩ := hn.exists_channel
  have hstep : (c.step x).2 = c.modifyChannel fun _ => current.subscribe.2 := by
    rw [step, hx]
    exact congrArg Prod.snd (subscribe_eq hcurrent)
  refine .of_plain hg hp ?_ ?_ (by rw [sentAt, hx]) (fun q => by rw [handedAt, hx])
    (fun _ _ => by rw [hstep]; rfl) ?_
  · rw [hstep]
    refine Bridge.acts_modifyChannel (fun packets hp => ?_) i packets hp
    rw [← Option.some.inj (hcurrent.symm.trans hp)]
    rfl
  · exact fun a ha => .inr (List.mem_singleton.1 (Bridge.mem_of_mem_on ha))
  · rintro - rfl -
    rw [Bridge.on_self]
    rfl

theorem exists_conducts_feed (hg : c.Guarded) (hp : c.bridge.channel? i = some packets)
    (hx : x.action = .feed) : ∃ xs, Conducts c x i packets xs := by
  have hstep : (c.step x).2 = c.feed := by
    rw [step, hx]
    rfl
  have hsent : sentAt i c x = [] := by rw [sentAt, hx]
  have hhanded : ∀ q, handedAt i q c x = [] := fun q => by rw [handedAt, hx]
  rcases c.feed_cases with he | ⟨r, current, hr, -, hch, hbridge, hagg, -⟩
  · exact ⟨[], .of_rest hg hp (by rw [hstep, he]) hsent hhanded fun _ _ => by rw [hstep, he]⟩
  have hacts : Bridge.Acts c.bridge c.feed.bridge
      (Bridge.on r.channel [.take r.queue .batch]) := by
    rw [hbridge]
    refine Bridge.acts_modifyChannel fun packets hp => ?_
    rw [← Option.some.inj (hch.symm.trans hp)]
    rfl
  by_cases hi : i = r.channel
  · subst hi
    obtain rfl := Option.some.inj (hch.symm.trans hp)
    refine ⟨[.take r.queue .batch], ?_, ⟨trivial, trivial⟩, ?_, ?_, ?_, ?_, ?_⟩
    · rw [hstep]
      exact (hacts _ _ hch).trans (by rw [Bridge.on_self])
    · intro q _
      rw [hsent, Channel.sentAll]
      exact List.append_eq_nil_iff.2 ⟨ite_self _, rfl⟩
    · intro q hq
      rw [hhanded, Channel.handedAll]
      refine List.append_eq_nil_iff.2 ⟨Channel.handed_of_target_ne ?_, rfl⟩
      exact fun h => hq r hr rfl (Option.some.inj h)
    · intro r' hr' _ _ hmanaged
      obtain rfl := Option.some.inj (hr.symm.trans hr')
      rw [hstep, hagg, Aggregator.recordAll_of_managed hmanaged, Channel.handedAll,
        Channel.handedAll, List.append_nil, Channel.handed, Channel.asked, if_pos rfl]
      rfl
    · intro r' hr' _ _
      exact Channel.spare_take current r.queue .batch r'.queue
    · intro hn
      rw [hr] at hn
      cases hn
  · refine ⟨[], .of_elsewhere hr hi ?_ hsent hhanded⟩
    rw [hstep]
    rw [hacts _ _ hp, Bridge.on_of_ne hi, Channel.actAll_nil]

/-- A start makes a queue for the feeder, which is given up again where the start fails. -/
theorem exists_conducts_start (hn : c.Numbered) (hg : c.Guarded)
    (hp : c.bridge.channel? i = some packets) {device : Nat} (hx : x.action = .start device) :
    ∃ xs, Conducts c x i packets xs := by
  have hstep : (c.step x).2 = (c.start device x.now x.host).2.1 := by
    rw [step, hx]
    rfl
  have hsent : sentAt i c x = [] := by rw [sentAt, hx]
  have hhanded : ∀ q, handedAt i q c x = [] := fun q => by rw [handedAt, hx]
  rcases hn.start_cases device x.now x.host with he | ⟨current, ho, hcurrent, he⟩
  · rw [he] at hstep
    exact ⟨[], .of_rest hg hp (by rw [hstep]) hsent hhanded fun _ _ => by rw [hstep]⟩
  · have hidle := ho.running?_eq
    have hrun : ∀ r, c.running? ≠ some r := by
      intro r hr
      rw [hidle] at hr
      cases hr
    have hsubscribe : Bridge.Acts c.bridge
        (c.bridge.modifyChannel c.channel fun _ => current.subscribe.2)
        (Bridge.on c.channel [.subscribe]) := by
      refine Bridge.acts_modifyChannel fun packets hp => ?_
      rw [← Option.some.inj (hcurrent.symm.trans hp)]
      rfl
    rcases he with he | he
    · rw [he] at hstep
      refine ⟨Bridge.on c.channel [.subscribe] i, .of_plain hg hp ?_ ?_ hsent hhanded
        (fun _ h => by rw [hidle] at h; cases h) ?_⟩
      · rw [hstep]
        exact hsubscribe i packets hp
      · exact fun a ha => .inr (List.mem_singleton.1 (Bridge.mem_of_mem_on ha))
      · rintro - rfl -
        rw [Bridge.on_self]
        rfl
    · rw [he] at hstep
      have hrelease : Bridge.Acts
          (c.bridge.modifyChannel c.channel fun _ => current.subscribe.2)
          (c.step x).2.bridge
          (Bridge.on c.channel [.release current.queues.length]) := by
        rw [hstep]
        exact Bridge.acts_modifyChannel fun _ _ => rfl
      have hacts := (hsubscribe.trans hrelease).congr
        (fun j => Bridge.on_append c.channel _ _ j)
      have hquiet : ∀ a ∈ Bridge.on c.channel
          ([.subscribe] ++ [.release current.queues.length]) i, a.isQuiet = true := by
        intro a ha
        rcases List.mem_append.1 (Bridge.mem_of_mem_on ha) with ha | ha
        · rw [List.mem_singleton.1 ha]
          rfl
        · rw [List.mem_singleton.1 ha]
          rfl
      refine ⟨_, hacts i packets hp, ?_, ?_, ?_, fun r hr => absurd hr (hrun r),
        fun r hr => absurd hr (hrun r), ?_⟩
      · by_cases hi : i = c.channel
        · subst hi
          obtain rfl := Option.some.inj (hcurrent.symm.trans hp)
          rw [Bridge.on_self]
          refine ⟨trivial, ?_, trivial⟩
          change 0 < current.subscribe.2.spare current.queues.length
          rw [(hg.wellFormed _ _ hp).spare_subscribe, if_pos rfl]
          exact Nat.succ_pos _
        · rw [Bridge.on_of_ne hi]
          trivial
      · intro q _
        rw [hsent, Channel.sentAll_of_quiet hquiet]
      · intro q _
        rw [hhanded, Channel.handedAll_of_quiet hquiet]
      · rintro - rfl -
        rw [Bridge.on_self]
        rfl

theorem conducts_refused (hg : c.Guarded) (hp : c.bridge.channel? i = some packets)
    (hr : Refused c x (c.step x).2) (hs : sentAt i c x = []) (hh : ∀ q, handedAt i q c x = []) :
    ∃ xs, Conducts c x i packets xs := by
  obtain ⟨departures, publisher, bridge, he, rfl | ⟨hclosed, hidle, rfl⟩⟩ := hr.exists_eq
  · exact ⟨[], .of_rest hg hp (by rw [he]) hs hh fun _ _ => by rw [he]⟩
  · refine ⟨Bridge.on c.channel [.close] i, .of_plain hg hp ?_ ?_ hs hh
      (fun _ _ => by rw [he]) fun _ _ hn => absurd hclosed hn⟩
    · have hacts : Bridge.Acts c.bridge (c.bridge.modifyChannel c.channel Channel.close)
          (Bridge.on c.channel [.close]) := Bridge.acts_modifyChannel fun _ _ => rfl
      rw [he]
      exact hacts i packets hp
    · exact fun a ha => .inl (List.mem_singleton.1 (Bridge.mem_of_mem_on ha))

/-- The feeder's queue is emptied as the session ends, by asking it often enough. -/
theorem exists_emptied_eq {r : Running} (hw : packets.WellFormed) {q : ItemQueue PacketRecord}
    (hq : packets.queue? r.queue = some q) :
    ∃ n, r.emptied packets = packets.actAll (Channel.takes r.queue n) ∧
      packets.handedAll r.queue (Channel.takes r.queue n) =
        if r.feeding then q.items else [] := by
  rw [Running.emptied]
  split
  · obtain ⟨ha, hh⟩ := Channel.actAll_takes hw.batch_pos hq le_rfl
    exact ⟨_, ha.symm, hh⟩
  · exact ⟨0, rfl, rfl⟩

omit [FeedHost σ] [CaptureHost σ] in
theorem sentAt_of_isRequest (hx : x.action.isRequest = true) : sentAt i c x = [] := by
  cases ha : x.action with
  | deliver worker script =>
      rw [ha] at hx
      cases hx
  | _ => rw [sentAt, ha]

omit [FeedHost σ] [CaptureHost σ] in
theorem handedAt_of_isRequest (hx : x.action.isRequest = true) (q : Nat) :
    handedAt i q c x = [] := by
  cases ha : x.action with
  | onPackets j action =>
      rw [ha] at hx
      cases hx
  | _ => rw [handedAt, ha]

/-- The channel of a session that ends is closed and emptied, what was in it is recorded, and
the feeder gives up its queue. -/
theorem exists_conducts_ended (hg : c.Guarded) (hp : c.bridge.channel? i = some packets)
    (hx : x.action.isRequest = true) {r : Running} (he : Ended σ c r x.now (c.Closes x) (c.step x).2) :
    ∃ xs, Conducts c x i packets xs := by
  have hsent := sentAt_of_isRequest (i := i) (c := c) hx
  have hhanded := handedAt_of_isRequest (i := i) (c := c) hx
  by_cases hi : i = r.channel
  · subst hi
    obtain ⟨closes, hcl, hlast⟩ := he.emptied packets hp
    have hclose : ∀ a ∈ Channel.Action.close :: closes, a = .close := by
      rw [List.forall_mem_cons]
      exact ⟨rfl, hcl⟩
    have hquiet : ∀ a ∈ Channel.Action.close :: closes, a.isQuiet = true :=
      fun a ha => hclose a ha ▸ rfl
    have hallowed := Channel.allowedAll_of_isFree (fun a ha => hclose a ha ▸ rfl) packets
    have hitems := itemsAt_actAll_of_closes hclose packets r.queue
    have hw := (hg.wellFormed _ _ hp).actAll hallowed
    have hspare := (hg.wellFormed _ _ hp).spare_actAll (fun a ha => hclose a ha ▸ rfl)
      (hg.queue_lt he.running_eq hp)
    have hpos := hg.feeder r packets he.running_eq hp
    rw [← hspare] at hpos
    obtain ⟨q, hq, -⟩ :=
      Channel.exists_queue_of_holdersAt (Channel.holdersAt_pos_of_spare hpos)
    obtain ⟨n, hemptied, hasked⟩ := exists_emptied_eq hw hq
    have hunread : c.unread r = if r.feeding then q.items else [] := by
      rw [unread, queued_eq hp, ← hitems, Channel.itemsAt_of_some hq]
    have hrelease : ∀ a ∈ [(.release r.queue : Channel.Action PacketRecord)], a.isQuiet = true :=
      List.forall_mem_singleton.2 rfl
    refine ⟨(.close :: closes) ++ (Channel.takes r.queue n ++ [.release r.queue]), ?_, ?_, ?_, ?_,
      ?_, ?_, ?_⟩
    · rw [hlast, hemptied, Channel.actAll_append, Channel.actAll_append]
      rfl
    · refine Channel.allowedAll_append.2 ⟨hallowed, Channel.allowedAll_append.2 ⟨?_, ?_, trivial⟩⟩
      · exact Channel.allowedAll_of_isFree (fun a ha => Channel.eq_take_of_mem_takes ha ▸ rfl) _
      · change 0 < Channel.spare _ r.queue
        rwa [Channel.spare_actAll_takes]
    · intro q' _
      rw [hsent, Channel.sentAll_append, Channel.sentAll_append, Channel.sentAll_of_quiet hquiet,
        Channel.sentAll_takes, Channel.sentAll_of_quiet hrelease]
      rfl
    · intro q' hq'
      rw [hhanded, Channel.handedAll_append, Channel.handedAll_append,
        Channel.handedAll_of_quiet hquiet,
        Channel.handedAll_takes_of_ne (hq' r he.running_eq rfl),
        Channel.handedAll_of_quiet hrelease]
      rfl
    · intro r' hr' _ _ hmanaged
      obtain rfl := Option.some.inj (he.running_eq.symm.trans hr')
      rw [he.aggregator_eq, Aggregator.recordAll_of_managed hmanaged, hunread,
        Channel.handedAll_append, Channel.handedAll_append, Channel.handedAll_of_quiet hquiet,
        hasked, Channel.handedAll_of_quiet hrelease, List.nil_append, List.append_nil]
      rfl
    · intro r' _ _ hrun
      rw [he.gone] at hrun
      cases hrun
    · intro hn
      rw [he.running_eq] at hn
      cases hn
  · refine ⟨[], .of_elsewhere he.running_eq hi ?_ hsent hhanded⟩
    rw [he.others i (List.getElem?_eq_some_iff.1 hp).1 hi, hp]

omit [CaptureHost σ] in
theorem tick_eq (c : Controller) (now : Moment) (s : σ) :
    (c.tick now s).1.bridge = c.bridge ∧
      (c.tick now s).1.aggregator.counters = c.aggregator.counters := by
  unfold tick
  split
  · exact ⟨rfl, Aggregator.counters_tick _ _ _⟩
  · exact ⟨rfl, rfl⟩

omit [CaptureHost σ] in
theorem bridge_clear (c : Controller) (now : Moment) (s : σ) :
    (c.clear now s).2.1.bridge = c.bridge := by
  unfold clear
  dsimp only
  split <;> rfl

omit [CaptureHost σ] in
theorem bridge_configure (c : Controller) (source : Source) (now : Moment) (s : σ) :
    (c.configure source now s).2.1.bridge = c.bridge := by
  unfold configure
  dsimp only
  split <;> rfl

/-- In a fair step every channel goes through some actions. -/
theorem exists_conducts (hn : c.Numbered) (hg : c.Guarded) (hf : c.Fair x)
    (hp : c.bridge.channel? i = some packets) : ∃ xs, Conducts c x i packets xs := by
  have hrequest : x.action.isRequest = true → ∃ xs, Conducts c x i packets xs := by
    intro hx
    rcases ends_or_refused hn hx with hr | ⟨r, -, he⟩
    · exact conducts_refused hg hp hr (sentAt_of_isRequest hx) (handedAt_of_isRequest hx)
    · exact exists_conducts_ended hg hp hx he
  cases ha : x.action with
  | start device => exact exists_conducts_start hn hg hp ha
  | stop _ | depart | close => exact hrequest (by rw [ha]; rfl)
  | clear =>
      refine ⟨[], .of_rest hg hp ?_ (by rw [sentAt, ha]) (fun q => by rw [handedAt, ha])
        fun h => ?_⟩
      · rw [step, ha]
        exact congrArg _ (bridge_clear c x.now x.host)
      · rw [ha] at h
        cases h
  | configure source =>
      refine ⟨[], .of_rest hg hp ?_ (by rw [sentAt, ha]) (fun q => by rw [handedAt, ha])
        fun h => ?_⟩
      · rw [step, ha]
        exact congrArg _ (bridge_configure c source x.now x.host)
      · rw [ha] at h
        cases h
  | tick =>
      obtain ⟨hb, hc⟩ := tick_eq c x.now x.host
      refine ⟨[], .of_rest hg hp ?_ (by rw [sentAt, ha]) (fun q => by rw [handedAt, ha])
        fun _ _ => ?_⟩
      · rw [step, ha]
        exact congrArg _ hb
      · rw [step, ha]
        exact hc
  | feed => exact exists_conducts_feed hg hp ha
  | deliver worker script => exact exists_conducts_deliver hn hg hp ha
  | disconnect worker => exact exists_conducts_disconnect hn hg hp ha
  | subscribe => exact ⟨_, conducts_subscribe hn hg hp ha⟩
  | statistics | onSnapshots =>
      refine ⟨[], .of_rest hg hp ?_ (by rw [sentAt, ha]) (fun q => by rw [handedAt, ha])
        fun _ _ => ?_⟩
      · rw [step, ha]
        rfl
      · rw [step, ha]
        rfl
  | onPackets j action => exact ⟨_, conducts_onPackets hg hf hp ha⟩

end Conducts

/-! ## Guarded runs -/

omit [FeedHost σ] [CaptureHost σ] in
theorem guarded_make (cfg : SessionConfig) (feed? : Option Nat) : (make cfg feed?).Guarded where
  wellFormed i packets hp := by
    have hm : packets ∈ [Channel.make cfg.capture.capacity cfg.capture.batch] :=
      List.mem_of_getElem? hp
    rw [List.mem_singleton.1 hm]
    exact Channel.wellFormed_make _ _
  feeder r packets hr := nomatch hr

/-- A channel that comes with a step is a new one. -/
theorem Numbered.channel?_new (hn : c.Numbered) {i : Nat} {packets : Packets}
    (hp : c.bridge.channel? i = none) (hp' : (c.step x).2.bridge.channel? i = some packets) :
    ∃ capacity batch, packets = Channel.make capacity batch ∨
      c.Closes x ∧ packets = (Channel.make capacity batch).close := by
  have hge : c.bridge.channels.length ≤ i := List.getElem?_eq_none_iff.1 hp
  have hlt : i < (c.step x).2.bridge.channels.length := (List.getElem?_eq_some_iff.1 hp').1
  cases moves_step hn x with
  | still hs =>
      rw [hs.alike.length_eq] at hlt
      exact absurd hlt (Nat.not_lt.2 hge)
  | opens device current ha hr hc he =>
      have hl : (c.step x).2.bridge.channels.length = c.bridge.channels.length := by
        rw [he]
        exact (Bridge.alike_modifyChannel _ _ _).length_eq
      rw [hl] at hlt
      exact absurd hlt (Nat.not_lt.2 hge)
  | ends r ha he =>
      have hi : i = (c.step x).2.channel := by
        rw [he.channel_eq]
        rw [he.length_eq] at hlt
        omega
      obtain ⟨capacity, batch, hnew | hnew⟩ := he.fresh
      · rw [← hi, hp', Option.some.injEq] at hnew
        exact ⟨capacity, batch, .inl hnew⟩
      · rw [← hi, hp', Option.some.injEq] at hnew
        exact ⟨capacity, batch, .inr hnew⟩

theorem Guarded.step (hn : c.Numbered) (hg : c.Guarded) (hf : c.Fair x) :
    (c.step x).2.Guarded where
  wellFormed i packets' hp' := by
    cases hp : c.bridge.channel? i with
    | none =>
        obtain ⟨capacity, batch, rfl | ⟨-, rfl⟩⟩ := hn.channel?_new hp hp'
        · exact Channel.wellFormed_make capacity batch
        · exact (Channel.wellFormed_make capacity batch).close
    | some packets =>
        obtain ⟨xs, hc⟩ := exists_conducts hn hg hf hp
        obtain rfl := Option.some.inj (hc.channel_eq.symm.trans hp')
        exact (hg.wellFormed i packets hp).actAll hc.allowed
  feeder r packets' hr hp' := by
    cases moves_step hn x with
    | still hs =>
        obtain ⟨r₀, hr₀, -, hchannel, hqueue⟩ := hs.exists_running hr
        rw [← hchannel] at hp'
        rw [← hqueue]
        cases hp : c.bridge.channel? r₀.channel with
        | none =>
            have hle := List.getElem?_eq_none_iff.1 hp
            have hlt := (List.getElem?_eq_some_iff.1 hp').1
            rw [hs.alike.length_eq] at hlt
            exact absurd hlt (Nat.not_lt.2 hle)
        | some packets =>
            obtain ⟨xs, hc⟩ := exists_conducts hn hg hf hp
            obtain rfl := Option.some.inj (hc.channel_eq.symm.trans hp')
            rw [hc.spare_eq r₀ hr₀ rfl (by rw [hr]; rfl)]
            exact hg.feeder r₀ packets hr₀ hp
    | opens device packets ha hidle hp he =>
        rw [he] at hr hp'
        obtain rfl := Option.some.inj hr
        have hnew : (c.bridge.modifyChannel c.channel fun _ => packets.subscribe.2).channel?
            c.channel = some packets' := hp'
        rw [Bridge.channel?_modifyChannel, hp, Option.map_some, if_pos rfl,
          Option.some.injEq] at hnew
        rw [← hnew, (hg.wellFormed _ _ hp).spare_subscribe, if_pos rfl]
        exact Nat.succ_pos _
    | ends r' ha he =>
        rw [he.gone] at hr
        cases hr

theorem Guarded.after (hn : c.Numbered) (hg : c.Guarded) {steps : List (Step σ)}
    (hf : c.Throughout Fair steps) : (c.after steps).Guarded := by
  induction steps generalizing c with
  | nil => exact hg
  | cons x steps ih => exact ih (hn.step x) (hg.step hn hf.1) hf.2

/-! ## A queue along a run -/

/-- A queue is not that of the feeder. -/
def Apart (c : Controller) (i q : Nat) : Prop :=
  ∀ r, c.running? = some r → r.channel = i → r.queue ≠ q

section Runs

variable {i q : Nat} {packets : Packets}

theorem Apart.step (ha : c.Apart i q) (hn : c.Numbered)
    (hp : c.bridge.channel? i = some packets) (hq : q < packets.queues.length) :
    (c.step x).2.Apart i q := by
  intro r hr hri
  cases moves_step hn x with
  | still hs =>
      obtain ⟨r₀, hr₀, -, hchannel, hqueue⟩ := hs.exists_running hr
      rw [← hqueue]
      exact ha r₀ hr₀ (hchannel.trans hri)
  | opens device current _ _ hcurrent he =>
      -- The feeder of a new session has a new queue.
      rw [he] at hr
      obtain rfl := Option.some.inj hr
      obtain rfl : c.channel = i := hri
      obtain rfl := Option.some.inj (hcurrent.symm.trans hp)
      exact (Nat.ne_of_lt hq).symm
  | ends r' _ he =>
      rw [he.gone] at hr
      cases hr

/-- Along a run a channel goes through some actions, which send what its reader sends, and
hand out what subscribers are handed. -/
theorem exists_actAll (hn : c.Numbered) (hg : c.Guarded) {steps : List (Step σ)}
    (hf : c.Throughout Fair steps) (hp : c.bridge.channel? i = some packets)
    (hq : q < packets.queues.length) (ha : c.Apart i q) :
    ∃ xs, (c.after steps).bridge.channel? i = some (packets.actAll xs) ∧
      packets.sentAll q xs = c.gather (sentAt i) steps ∧
      packets.handedAll q xs = c.gather (handedAt i q) steps ∧ (c.after steps).Apart i q := by
  induction steps generalizing c packets with
  | nil => exact ⟨[], hp, rfl, rfl, ha⟩
  | cons x steps ih =>
      obtain ⟨xs, hc⟩ := exists_conducts hn hg hf.1 hp
      have hq' : q < (packets.actAll xs).queues.length := by
        obtain ⟨_, hqueue⟩ := Channel.lt_length_iff.1 hq
        exact Channel.lt_length_iff.2 (Channel.exists_queue?_actAll hqueue xs)
      obtain ⟨ys, hys, hsent, hhanded, hapart⟩ :=
        ih (hn.step x) (hg.step hn hf.1) hf.2 hc.channel_eq hq' (ha.step hn hp hq)
      refine ⟨xs ++ ys, ?_, ?_, ?_, hapart⟩
      · rw [Channel.actAll_append]
        exact hys
      · rw [Channel.sentAll_append, hsent, hc.sent_eq q hq, gather]
      · rw [Channel.handedAll_append, hhanded, hc.handed_eq q ha, gather]

end Runs

end Controller

end PacketMeter.Session
