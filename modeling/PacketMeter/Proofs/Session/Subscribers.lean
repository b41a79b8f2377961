import PacketMeter.Proofs.Channel.Ending
import PacketMeter.Proofs.Session.Teardown
import PacketMeter.Proofs.Session.Traffic

/-!
# Subscribers and their session

Who subscribes gets a queue of the channel that is current, and with it the records of one
session: of the one that runs, or of the next one to begin.  The reader of no other session
sends to this channel, whenever and however long it goes on.

The channel stays current until its session has ended, also through starts that fail.  Then
it is closed for ever, and what the queue holds is all that there is left to be handed out.
-/

namespace PacketMeter

namespace Channel

variable {α : Type} {ch : Channel α} {i : Nat} {q : ItemQueue α}

/-- Who holds a queue is handed what it has left, at once and also after a wait, and then told
that it is at its end. -/
structure Drains (ch : Channel α) (i : Nat) (q : ItemQueue α) : Prop where
  take_eq : ∀ mode, (ch.take i mode).1 = q.offer (ItemQueue.room ch.batch mode) true
  room_pos : ∀ mode, 0 < ItemQueue.room ch.batch mode
  wait_eq : ∀ w wait, ch.waits.lookup w = some wait → wait.queue = i →
    (ch.pollWait w).1 = (ch.take i wait.mode).1
  emptied : ∀ n, q.items.length ≤ n → ch.handedAll i (takes i n) = q.items ∧
    ∀ mode, ((ch.actAll (takes i n)).take i mode).1 = .ended

/-- A closed channel has its queues drained. -/
theorem WellFormed.drains (h : ch.WellFormed) (hc : ch.closed = true) (hq : ch.queue? i = some q)
    (hp : 0 < q.holders) : ch.Drains i q where
  take_eq mode := by rw [fst_take hq, (h.served hq hp).2, hc]
  room_pos mode := by
    cases mode with
    | one => exact Nat.one_pos
    | batch => exact h.batch_pos
  wait_eq w wait hw hi := by rw [h.fst_pollWait hw, hi]
  emptied n hn := by
    obtain ⟨hact, hhanded⟩ := actAll_takes h.batch_pos hq hn
    refine ⟨hhanded, fun mode => ?_⟩
    have hq' := queue?_modify ch i i fun q => { q with items := [] }
    rw [hq, Option.map_some, if_pos rfl] at hq'
    rw [hact, fst_take hq']
    change ItemQueue.offer { q with items := [] } _ q.closed = _
    rw [(h.served hq hp).2, hc]
    rfl

end Channel

namespace Session

open PacketMeter.Capture (Active Bridge Packets)
open PacketMeter.Stats

namespace Controller

variable {σ : Type} [FeedHost σ] [CaptureHost σ] {c : Controller} {x : Step σ}

/-- A fair step that does not close the controller. -/
def Regular (c : Controller) (x : Step σ) : Prop := c.Fair x ∧ ¬ c.Closes x

/-- The channels of sessions that have ended are closed. -/
def Sealed (c : Controller) : Prop :=
  ∀ i packets, i < c.channel → c.bridge.channel? i = some packets → packets.closed = true

/-- The channels of sessions that have ended are closed, and that of the next session is
open. -/
structure Gated (c : Controller) : Prop where
  closed_of_lt : c.Sealed
  open_of_idle : ∀ packets, c.running? = none → c.bridge.channel? c.channel = some packets →
    packets.closed = false

omit [FeedHost σ] [CaptureHost σ] in
theorem sealed_make (cfg : SessionConfig) (feed? : Option Nat) : (make cfg feed?).Sealed :=
  fun i _ hi => absurd hi (Nat.not_lt_zero i)

omit [FeedHost σ] [CaptureHost σ] in
theorem gated_make (cfg : SessionConfig) (feed? : Option Nat) : (make cfg feed?).Gated where
  closed_of_lt := sealed_make cfg feed?
  open_of_idle packets _ hp := by
    have hm : packets ∈ [Channel.make cfg.capture.capacity cfg.capture.batch] :=
      List.mem_of_getElem? hp
    rw [List.mem_singleton.1 hm]
    rfl

omit [FeedHost σ] [CaptureHost σ] in
theorem Numbered.exists_channel_of_le (hn : c.Numbered) {i : Nat} (hi : i ≤ c.channel) :
    ∃ packets, c.bridge.channel? i = some packets :=
  ⟨_, List.getElem?_eq_getElem (by rw [hn.length_eq]; exact Nat.lt_succ_of_le hi)⟩

omit [CaptureHost σ] in
theorem Ended.closed {r : Running} {now : Moment} {closing : Prop} {c' : Controller}
    (he : Ended σ c r now closing c') {packets packets' : Packets}
    (hp : c.bridge.channel? r.channel = some packets)
    (hp' : c'.bridge.channel? r.channel = some packets') : packets'.closed = true := by
  obtain ⟨closes, -, hlast⟩ := he.emptied packets hp
  obtain rfl := Option.some.inj (hlast.symm.trans hp')
  have hclosed : (packets.actAll (.close :: closes)).closed = true := by
    rw [Channel.closed_actAll]
    exact Bool.or_true _
  rw [Running.emptied]
  split <;> exact hclosed

theorem Sealed.step (h : c.Sealed) (hn : c.Numbered) (hg : c.Guarded) (hf : c.Fair x) :
    (c.step x).2.Sealed := by
  intro i packets' hi hp'
  have hstill : i < c.channel → packets'.closed = true := by
    intro hi
    obtain ⟨packets, hp⟩ := hn.exists_channel_of_le hi.le
    obtain ⟨xs, hc⟩ := exists_conducts hn hg hf hp
    obtain rfl := Option.some.inj (hc.channel_eq.symm.trans hp')
    rw [Channel.closed_actAll, h i packets hi hp, Bool.true_or]
  cases moves_step hn x with
  | still hs => exact hstill (hs.channel_eq ▸ hi)
  | opens device packets _ _ _ he =>
      rw [he] at hi
      exact hstill hi
  | ends r _ he =>
      rw [he.channel_eq, hn.length_eq] at hi
      rcases Nat.lt_or_eq_of_le (Nat.le_of_lt_succ hi) with hlt | rfl
      · exact hstill hlt
      · -- This is the channel of the session that has just ended.
        obtain ⟨packets, hp⟩ := hn.exists_channel
        rw [← (hn.running_eq r he.running_eq).2.1] at hp hp'
        exact he.closed hp hp'

theorem Gated.step (h : c.Gated) (hn : c.Numbered) (hg : c.Guarded) (hx : c.Regular x) :
    (c.step x).2.Gated where
  closed_of_lt := h.closed_of_lt.step hn hg hx.1
  open_of_idle packets' hidle hp' := by
    cases moves_step hn x with
    | still hs =>
        have hrun := hs.running?_eq_none_iff.1 hidle
        obtain ⟨packets, hp⟩ := hn.exists_channel
        obtain ⟨xs, hc⟩ := exists_conducts hn hg hx.1 hp
        rw [hs.channel_eq] at hp'
        obtain rfl := Option.some.inj (hc.channel_eq.symm.trans hp')
        rw [Channel.closed_actAll, h.open_of_idle packets hrun hp, hc.open_of hrun rfl hx.2]
        rfl
    | opens device packets _ _ _ he =>
        rw [he] at hidle
        cases hidle
    | ends r _ he =>
        obtain ⟨capacity, batch, hnew | ⟨hclosing, -⟩⟩ := he.fresh
        · obtain rfl := Option.some.inj (hnew.symm.trans hp')
          rfl
        · exact absurd hclosing hx.2

theorem Gated.after (h : c.Gated) (hn : c.Numbered) (hg : c.Guarded) {steps : List (Step σ)}
    (hx : c.Throughout Regular steps) : (c.after steps).Gated := by
  induction steps generalizing c with
  | nil => exact h
  | cons x steps ih =>
      exact ih (h.step hn hg hx.1) (hn.step x) (hg.step hn hx.1.1) hx.2

/-! ## Which reader sends where -/

/-- A reader does nothing to the channels of other readers. -/
theorem Numbered.channel?_deliver (hn : c.Numbered) {worker i : Nat} (hi : worker ≠ i)
    (script : List Delivery) :
    (c.deliver worker script).bridge.channel? i = c.bridge.channel? i := by
  obtain ⟨closes, -, -, hacts⟩ :=
    Bridge.exists_acts_deliver (hn.serves worker) script
  cases hp : c.bridge.channel? i with
  | some packets =>
      have hd := hacts i packets hp
      rw [Bridge.on_of_ne hi.symm] at hd
      exact hd
  | none =>
      have hle := List.getElem?_eq_none_iff.1 hp
      rw [← (Bridge.alike_deliver c.bridge worker script).length_eq] at hle
      exact List.getElem?_eq_none_iff.2 hle

omit [FeedHost σ] [CaptureHost σ] in
theorem sentAt_of_none {i : Nat} (hw : c.bridge.workers[i]? = none) : sentAt i c x = [] := by
  rw [sentAt]
  split
  · split
    · rename_i h
      rw [Bridge.sentBy, h, hw]
    · rfl
  · rfl

/-- A reader sends nothing before its session has begun. -/
theorem Numbered.gather_sentAt_of_le (hn : c.Numbered) {i : Nat} {steps : List (Step σ)}
    (hi : (c.after steps).sessions ≤ i) : c.gather (sentAt i) steps = [] := by
  induction steps using List.reverseRecOn with
  | nil => rfl
  | append_singleton steps x ih =>
      have h := hn.after steps
      have hle : (c.after steps).sessions ≤ i := by
        rw [after_concat] at hi
        rcases h.turnover_cases x with ⟨-, hs, -⟩ | ⟨-, hs, -⟩ | ⟨-, hs, -⟩ <;> omega
      have hl := congrArg List.length h.workers_eq
      rw [List.length_map, List.length_range] at hl
      rw [gather_concat, ih hle, sentAt_of_none (List.getElem?_eq_none_iff.2 (hl.trans_le hle))]
      rfl

/-! ## Subscriptions -/

theorem Gated.closed_of_gone (hg : c.Gated) (hn : c.Numbered) {id : Nat} {packets : Packets}
    (hid : id < c.sessions) (hgone : c.current? ≠ some id)
    (hp : c.bridge.channel? id = some packets) : packets.closed = true := by
  refine hg.closed_of_lt id packets ?_ hp
  cases hr : c.running? with
  | none => exact hn.sessions_eq_of_idle hr ▸ hid
  | some r =>
      have hne : id ≠ c.channel := by
        rintro rfl
        rw [current?, hr, Option.map_some, (hn.running_eq r hr).1] at hgone
        exact hgone rfl
      rw [hn.sessions_eq_of_running hr] at hid
      exact Nat.lt_of_le_of_ne (Nat.le_of_lt_succ hid) hne

/-- The channel of a session that has not begun yet is current, and open. -/
theorem Gated.open_of_sessions_le (hg : c.Gated) (hn : c.Numbered) {id : Nat}
    (hid : c.sessions ≤ id) (hle : id ≤ c.channel) :
    c.channel = id ∧ ∀ packets, c.bridge.channel? id = some packets → packets.closed = false := by
  cases hr : c.running? with
  | none =>
      obtain rfl := Nat.le_antisymm (hn.sessions_eq_of_idle hr ▸ hid) hle
      exact ⟨rfl, fun packets hp => hg.open_of_idle packets hr hp⟩
  | some r =>
      rw [hn.sessions_eq_of_running hr] at hid
      exact absurd hid (Nat.not_le.2 (Nat.lt_succ_of_le hle))

/-- Who subscribes gets a new queue of the channel that is current, which is not that of the
feeder. -/
theorem Guarded.exists_subscribed (hg : c.Guarded) (hn : c.Numbered)
    (hx : x.action = .subscribe) :
    ∃ packets : Packets, c.subscribe.1 = (c.channel, packets.queues.length) ∧
      (c.step x).2.bridge.channel? c.channel = some packets.subscribe.2 ∧
      packets.subscribe.2.queue? packets.queues.length =
        some ⟨[], packets.closed, 0, 1, !packets.closed⟩ ∧
      (c.step x).2.Apart c.channel packets.queues.length := by
  obtain ⟨packets, hp⟩ := hn.exists_channel
  have hsub := subscribe_eq hp
  have hc : (c.step x).2 = c.modifyChannel fun _ => packets.subscribe.2 := by
    rw [Controller.step, hx]
    exact congrArg Prod.snd hsub
  refine ⟨packets, congrArg Prod.fst hsub, ?_, packets.queue?_subscribe, ?_⟩
  · rw [hc, modifyChannel, Bridge.channel?_modifyChannel, hp, Option.map_some, if_pos rfl]
  · intro r hr hri
    rw [hc] at hr
    exact Nat.ne_of_lt (hg.queue_lt hr (hri ▸ hp))

/-- What a closed channel still does with a queue that is not that of the feeder: it hands out
what the queue holds. -/
theorem Guarded.exists_queue_of_closed (hg : c.Guarded) (hn : c.Numbered)
    {more : List (Step σ)} (hmore : c.Throughout Fair more) {i queue : Nat} {packets : Packets}
    {q : ItemQueue PacketRecord} (hp : c.bridge.channel? i = some packets)
    (hclosed : packets.closed = true) (hq : packets.queue? queue = some q)
    (ha : c.Apart i queue) :
    c.gather (sentAt i) more = [] ∧
      ∃ packets' q', (c.after more).bridge.channel? i = some packets' ∧
        packets'.closed = true ∧ packets'.queue? queue = some q' ∧
        q.items = c.gather (handedAt i queue) more ++ q'.items ∧ q'.dropped = q.dropped := by
  have hlt := Channel.lt_length_iff.2 ⟨q, hq⟩
  obtain ⟨xs, hp', hsent, hhanded, -⟩ := exists_actAll hn hg hmore hp hlt ha
  have hnone := Channel.sentAll_of_closed hclosed queue xs
  obtain ⟨q', hq', hitems, hd⟩ := Channel.queue?_actAll_of_sentAll hq hnone
  refine ⟨hsent.symm.trans hnone, _, q', hp', ?_, hq', ?_, hd⟩
  · rw [Channel.closed_actAll, hclosed, Bool.true_or]
  · rw [hitems, hhanded]

/-- Who subscribes gets a queue of the channel of the session that runs, or of the next one
to begin.  Whatever happens until the controller is closed, the queue hands out only what the
reader of this session sends, in its order, and all of it unless some is dropped.  Its channel
stays open and current until the session has begun, and is closed once it has ended.  Then
nothing more is sent, the queue hands out what it holds, and after that it is at its end.

In any run the reader of a session and its channel have the number of the session, and a
reader does nothing to other channels, however long it goes on. -/
theorem subscription_belongs_to_session (cfg : SessionConfig) (feed? : Option Nat)
    {before rest : List (Step σ)} {asked : Step σ} (hasked : asked.action = .subscribe)
    (h : (make cfg feed?).Throughout Regular (before ++ asked :: rest)) :
    let c₀ := (make cfg feed?).after before
    let c := (c₀.step asked).2.after rest
    let id := c₀.subscribe.1.1
    let queue := c₀.subscribe.1.2
    let sent := (c₀.step asked).2.gather (sentAt id) rest
    let handed := (c₀.step asked).2.gather (handedAt id queue) rest
    (∀ r, c₀.running? = some r → id = r.id) ∧
      (c₀.running? = none → id = c₀.sessions ∧ (make cfg feed?).gather (sentAt id) before = []) ∧
      (c.sessions ≤ id → c.channel = id) ∧
      (∀ steps : List (Step σ), let c := (make cfg feed?).after steps
        (∀ r, c.running? = some r → r.channel = r.id ∧
          c.bridge.active?.map Active.worker = some r.id) ∧
        ∀ worker i script, worker ≠ i →
          (c.deliver worker script).bridge.channel? i = c.bridge.channel? i) ∧
      ∃ packets q, c.bridge.channel? id = some packets ∧ packets.queue? queue = some q ∧
        (handed ++ q.items).Sublist sent ∧
        (0 < q.holders → q.Account sent handed ∧ (q.dropped = 0 → handed ++ q.items = sent)) ∧
        (c.sessions ≤ id → packets.closed = false) ∧
        (id < c.sessions → c.current? ≠ some id → packets.closed = true) ∧
        (packets.closed = true →
          (0 < q.holders → packets.Drains queue q) ∧
          ∀ more : List (Step σ), c.Throughout Regular more →
            c.gather (sentAt id) more = [] ∧
            ∃ packets' q', (c.after more).bridge.channel? id = some packets' ∧
              packets'.closed = true ∧ packets'.queue? queue = some q' ∧
              q.items = c.gather (handedAt id queue) more ++ q'.items ∧
              q'.dropped = q.dropped) := by
  intro c₀ c id queue sent handed
  obtain ⟨hbefore, hstep, hrest⟩ := throughout_append.1 h
  have hfair : ∀ (c : Controller) (x : Step σ), c.Regular x → c.Fair x := fun _ _ hx => hx.1
  have hn₀ : c₀.Numbered := (numbered_make cfg feed?).after before
  have hg₀ : c₀.Guarded :=
    (guarded_make cfg feed?).after (numbered_make cfg feed?) (hbefore.mono hfair)
  have hgate₀ : c₀.Gated :=
    (gated_make cfg feed?).after (numbered_make cfg feed?) (guarded_make cfg feed?) hbefore
  have hn₁ := hn₀.step asked
  have hg₁ := hg₀.step hn₀ hstep.1
  have hn : c.Numbered := hn₁.after rest
  have hg : c.Guarded := hg₁.after hn₁ (hrest.mono hfair)
  have hgate : c.Gated := (hgate₀.step hn₀ hg₀ hstep).after hn₁ hg₁ hrest
  -- The queue is new, so that its account covers all that is sent from here on.
  obtain ⟨current, hsub, hp₁, hnew, hapart⟩ := hg₀.exists_subscribed hn₀ hasked
  have hid : id = c₀.channel := congrArg Prod.fst hsub
  have hqueue : queue = current.queues.length := congrArg Prod.snd hsub
  rw [← hid] at hp₁ hapart
  rw [← hqueue] at hnew hapart
  obtain ⟨xs, hp, hsent, hhanded, hapart'⟩ :=
    exists_actAll hn₁ hg₁ (hrest.mono hfair) hp₁ (Channel.lt_length_iff.2 ⟨_, hnew⟩) hapart
  have hw := hg.wellFormed id _ hp
  have hle : id ≤ c.channel := by
    rw [hid]
    exact (hn₀.channel_le [asked]).trans (hn₁.channel_le rest)
  obtain ⟨q, hq, hsublist, haccount⟩ :=
    Channel.account_actAll_of_new (hg₁.wellFormed id _ hp₁).toSound hnew rfl rfl xs
  rw [hsent, hhanded] at hsublist haccount
  refine ⟨?_, ?_, fun h => (hgate.open_of_sessions_le hn h hle).1, ?_, _, q, hp, hq, hsublist,
    ?_, fun h => (hgate.open_of_sessions_le hn h hle).2 _ hp,
    fun h hgone => hgate.closed_of_gone hn h hgone hp, ?_⟩
  · intro r hr
    rw [hid, (hn₀.running_eq r hr).1]
  · intro hr
    have hs := hn₀.sessions_eq_of_idle hr
    exact ⟨hid.trans hs.symm, (numbered_make cfg feed?).gather_sentAt_of_le (hid ▸ hs.le)⟩
  · intro steps
    have h : ((make cfg feed?).after steps).Numbered := (numbered_make cfg feed?).after steps
    refine ⟨fun r hr => ?_, fun _ _ script hi => h.channel?_deliver hi script⟩
    obtain ⟨hrid, hchannel, hactive⟩ := h.running_eq r hr
    exact ⟨hchannel.trans hrid.symm, hactive.trans (congrArg some hrid.symm)⟩
  · intro hpos
    have ha := haccount (hw.isServed hq hpos)
    exact ⟨ha, ha.append_eq⟩
  · intro hclosed
    exact ⟨fun hpos => hw.drains hclosed hq hpos, fun more hmore =>
      hg.exists_queue_of_closed hn (hmore.mono hfair) hp hclosed hq hapart'⟩

/-- A host on which every call works, but on which no reader exits in time. -/
structure Unhurried where

instance : CaptureHost Unhurried where
  perform
    | .join _, s => (.done false, s)
    | call, s => ((perform call Willing.mk).1, s)

instance : FeedHost Unhurried where
  answer _ _ s := (.error .closed, s)

theorem regular_of_ne {x : Step σ} (hp : ∀ i a, x.action ≠ .onPackets i a)
    (hc : x.action ≠ .close) : c.Regular x :=
  ⟨fun i a _ ha => absurd ha (hp i a), fun h => hc h.1⟩

/-- A step on this host. -/
def unhurried (a : Action) : Step Unhurried := ⟨a, true, default, Unhurried.mk⟩

/-- A session whose connection delivers some bytes. -/
def oneSession (bytes : List UInt8) : List (Step Unhurried) :=
  [unhurried (.start 3), unhurried (.deliver 0 [.data bytes]), unhurried (.stop none)]

theorem after_oneSession {bytes : List UInt8} {record : PacketRecord}
    (hl : bytes.length = Frame.length) (hd : Frame.decode bytes = .ok record)
    (hb : record.isHeartbeat = false) :
    let c := ((make default none).step (unhurried .subscribe)).2.after (oneSession bytes)
    c.sessions = 1 ∧ c.current? = none ∧
      (c.bridge.channel? 0).bind (·.queue? 0) = some ⟨[record], true, 0, 1, false⟩ := by
  let c := ((make default none).step (unhurried .subscribe)).2.after [unhurried (.start 3)]
  let made : Packets := Channel.make (default : SessionConfig).capture.capacity
    (default : SessionConfig).capture.batch
  have hworker : c.bridge.workers[0]? = some ⟨0, Capture.Reader.start⟩ := rfl
  have hchannel : c.bridge.channel? 0 = some made.subscribe.2.subscribe.2 := rfl
  have hdeliver := (Bridge.deliver_frame hworker hchannel rfl hl hd hb).2
  have harrives : (c.step (unhurried (.deliver 0 [.data bytes]))).2 = { c with bridge := _ } :=
    congrArg (fun bridge => { c with bridge }) hdeliver
  have hafter : ((make default none).step (unhurried .subscribe)).2.after (oneSession bytes) =
      (c.step (unhurried (.deliver 0 [.data bytes]))).2.after [unhurried (.stop none)] := by
    rw [oneSession, after_cons, after_cons]
    rfl
  rw [hafter, harrives]
  exact ⟨rfl, rfl, rfl⟩

/-- A frame with a record.  Nothing else matters about it, and it need not be computed. -/
theorem exists_default_frame : ∃ bytes record, Frame.encode default = bytes ∧
    Frame.reread default = record ∧ bytes.length = Frame.length ∧
      Frame.decode bytes = .ok record ∧ record.isHeartbeat = false :=
  ⟨_, _, rfl, rfl, Frame.length_encode default, Frame.decode_encode default, rfl⟩

/-- Who subscribed before the first session has its one record also after the second session
has begun, in which the first reader still goes on. -/
theorem subscription_belongs_to_session_late :
    let c := ((make default none).step (unhurried .subscribe)).2.after
      (oneSession (Frame.encode default))
    let more := [unhurried (.start 5), unhurried (.deliver 0 [.data (Frame.encode default)])]
    ∃ packets q, c.bridge.channel? 0 = some packets ∧ packets.queue? 0 = some q ∧
      q.items = [Frame.reread default] ∧ packets.Drains 0 q ∧ c.gather (sentAt 0) more = [] ∧
      ∃ packets' q', (c.after more).bridge.channel? 0 = some packets' ∧
        packets'.queue? 0 = some q' ∧ q'.items = [Frame.reread default] := by
  obtain ⟨bytes, record, hbytes, hrecord, hl, hd, hb⟩ := exists_default_frame
  rw [hbytes, hrecord]
  intro c more
  obtain ⟨hsessions, hcurrent, hqueue⟩ := after_oneSession hl hd hb
  have hregular : (make default none).Throughout Regular
      ([] ++ unhurried .subscribe :: oneSession bytes) :=
    ⟨regular_of_ne nofun nofun, regular_of_ne nofun nofun, regular_of_ne nofun nofun,
      regular_of_ne nofun nofun, trivial⟩
  have hasked : (make default none).subscribe.1 = (0, 0) := rfl
  have hall := subscription_belongs_to_session default none rfl hregular
  simp only [after_nil, hasked] at hall
  obtain ⟨-, -, -, -, packets, q, hp, hq, -, -, -, hgone, hclosed⟩ := hall
  rw [hp, Option.bind_some, hq, Option.some.injEq] at hqueue
  have hitems : q.items = [record] := by rw [hqueue]
  have hholders : 0 < q.holders := by
    rw [hqueue]
    exact Nat.one_pos
  have hbegun : 0 < c.sessions := by
    rw [hsessions]
    exact Nat.one_pos
  have hended : c.current? ≠ some 0 := by
    rw [hcurrent]
    exact (Option.some_ne_none 0).symm
  obtain ⟨hdrains, hmore⟩ := hclosed (hgone hbegun hended)
  obtain ⟨hsent, packets', q', hp', -, hq', hi', -⟩ :=
    hmore more ⟨regular_of_ne nofun nofun, regular_of_ne nofun nofun, trivial⟩
  refine ⟨packets, q, hp, hq, hitems, hdrains hholders, hsent, packets', q', hp', hq', ?_⟩
  rw [← hitems, hi']
  rfl

end Controller

end Session

end PacketMeter
