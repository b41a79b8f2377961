import PacketMeter.Proofs.Session.Renumbering
import PacketMeter.Proofs.Session.Subscribers

/-!
# Starts that fail

A start says that it starts, subscribes a feeder and has the bridge make its calls to the host.
When one of these fails, all of it is undone but for the queue of the feeder, which nobody holds
any more.

This queue has a number, and the queues that are subscribed later have other numbers than without
it.  Nothing else is different in any run that follows.
-/

namespace PacketMeter

namespace Capture.Bridge

variable {σ : Type}

/-- What is done once a call has worked. -/
def andThen (called : Outcome Unit × σ) (next : σ → Outcome Unit × σ) : Outcome Unit × σ :=
  match called with
  | (.done (), s) => next s
  | stopped => stopped

variable [CaptureHost σ]

/-- The calls that attach a reader, one after the other until one does not work. -/
def attaching (cfg : CaptureConfig) (device : Nat) (s : σ) : Outcome Unit × σ :=
  andThen (perform (.start device) s) fun s =>
  andThen (perform (.connect cfg.endpoint cfg.connectTimeout) s) fun s =>
  andThen (perform (.select device) s) (perform .share)

/-- The calls that begin a capture, one after the other until one does not work. -/
def beginning (cfg : CaptureConfig) (device : Nat) (s : σ) : Outcome Unit × σ :=
  andThen (perform .set s) (attaching cfg device)

/-- What calls come to that are undone when they fail: the same, unless the engine crashes as it is
stopped or the signal as it is reset. -/
inductive Undone (σ : Type) [CaptureHost σ] : Outcome Unit → Outcome Unit → Prop
  | same (o : Outcome Unit) : Undone σ o o
  | crashed (f : Failure) (message : String) (call : HostCall Unit) (s : σ)
      (hcall : call = .stop ∨ call = .reset) (h : (perform call s).1 = .crashed message) :
      Undone σ (.failed f) (.crashed message)

theorem undone_abort (connected : Bool) (f : Failure) (s : σ) :
    Undone σ (.failed f) (abort connected f s).1 := by
  unfold abort
  dsimp only
  split
  · rename_i h
    exact .crashed f _ .stop _ (.inl rfl) (congrArg Prod.fst h)
  · exact .same _

theorem undone_select (device : Nat) (s : σ) :
    Undone σ (andThen (perform (.select device) s) (perform .share)).1 (select device s).1 := by
  unfold select
  generalize perform (.select device) s = called
  obtain ⟨outcome, s⟩ := called
  cases outcome with
  | crashed => exact .same _
  | failed f => exact undone_abort true f s
  | done =>
      dsimp only [andThen]
      generalize perform .share s = called
      obtain ⟨outcome, s⟩ := called
      cases outcome with
      | crashed => exact .same _
      | failed f => exact undone_abort true f s
      | done => exact .same _

theorem undone_attach (cfg : CaptureConfig) (device : Nat) (s : σ) :
    Undone σ (attaching cfg device s).1 (attach cfg device s).1 := by
  unfold attaching attach
  generalize perform (.start device) s = called
  obtain ⟨outcome, s⟩ := called
  cases outcome with
  | crashed | failed => exact .same _
  | done =>
      dsimp only [andThen]
      generalize perform (.connect cfg.endpoint cfg.connectTimeout) s = called
      obtain ⟨outcome, s⟩ := called
      cases outcome with
      | crashed => exact .same _
      | failed f => exact undone_abort false f s
      | done => exact undone_select device s

theorem undone_launch (b : Bridge) (cfg : CaptureConfig) (device channel : Nat) (s : σ) :
    Undone σ (beginning cfg device s).1 (b.launch cfg device channel s).1 := by
  unfold beginning launch
  generalize perform .set s = called
  obtain ⟨outcome, s⟩ := called
  cases outcome with
  | crashed | failed => exact .same _
  | done =>
      have hattach := undone_attach cfg device s
      change Undone σ (attaching cfg device s).1 _
      generalize (attaching cfg device s).1 = attached at hattach ⊢
      dsimp only
      generalize attach cfg device s = p at hattach ⊢
      obtain ⟨outcome, s⟩ := p
      cases outcome with
      | crashed | done => exact hattach
      | failed f =>
          dsimp only at hattach ⊢
          split
          · rename_i h
            -- Only what has failed is undone.
            cases hattach
            exact .crashed f _ .reset _ (.inr rfl) (congrArg Prod.fst h)
          · exact hattach

end Capture.Bridge

namespace Session

open PacketMeter.Capture (Bridge Packets)
open PacketMeter.Stats

namespace Controller

variable {σ : Type} {c : Controller} {packets : Packets}

/-- The numbers of queues, where another queue came in between in one channel. -/
def pastAt (channel queue i : Nat) : Nat → Nat := if i = channel then Channel.past queue else id

/-- The controller with one more queue in its channel, which nobody holds, after it has said that
it starts. -/
def deserted (c : Controller) (device : Nat) (packets : Packets) : Controller :=
  { c with
    bridge := c.bridge.modifyChannel c.channel fun _ => packets.deserted
    passed := c.passed ++ [.idle, ⟨.starting, some device, none⟩] }

theorem unopened_eq (h : c.Holds none) (device : Nat) (packets : Packets) :
    c.unopened device packets = c.deserted device packets := by
  have hs : c.status = .idle := h.status_eq
  have hchannels : (c.bridge.channels.modify c.channel fun _ => packets.subscribe.2).modify
      c.channel (·.release packets.queues.length) =
        c.bridge.channels.modify c.channel fun _ => packets.deserted := by
    rw [List.modify_modify_eq]
    exact congrArg (c.bridge.channels.modify c.channel)
      (funext fun _ => packets.release_subscribe)
  have hpassed := List.append_assoc c.passed [.idle] [⟨.starting, some device, none⟩]
  obtain ⟨cfg, feed?, bridge, channel, status, passed, running?, sessions, departures, aggregator,
    publisher⟩ := c
  obtain rfl : status = .idle := hs
  exact congrArg₂ (fun channels passed => (⟨cfg, feed?, { bridge with channels }, channel, .idle,
    passed, running?, sessions, departures, aggregator, publisher⟩ : Controller)) hchannels hpassed

theorem renumbered_deserted (hp : c.bridge.channel? c.channel = some packets)
    (hw : packets.WellFormed) (hr : c.running? = none) (device : Nat) :
    Renumbered (pastAt c.channel packets.queues.length) c (c.deserted device packets) := by
  have hlt : c.channel < c.bridge.channels.length := (List.getElem?_eq_some_iff.1 hp).1
  have hrun : c.running? = c.running?.map
      (Running.renumber (pastAt c.channel packets.queues.length)) := by rw [hr]; rfl
  have hrel : ∀ i, Option.Rel (Channel.Renumbered (pastAt c.channel packets.queues.length i))
      (c.bridge.channel? i) ((c.deserted device packets).bridge.channel? i) := by
    intro i
    rw [deserted, Bridge.channel?_modifyChannel]
    by_cases hi : c.channel = i
    · subst hi
      rw [hp, Option.map_some, if_pos rfl, pastAt, if_pos rfl]
      exact .some hw.renumbered_deserted
    · rw [pastAt, if_neg fun e => hi e.symm]
      cases c.bridge.channel? i with
      | none => exact .none
      | some packets =>
          rw [Option.map_some, if_neg hi]
          exact .some packets.renumbered_id
  refine ⟨(c.deserted device packets).bridge, _,
    congrArg (fun running? => ({ c.deserted device packets with running? } : Controller)) hrun,
    _, rfl, List.length_modify _ _ _, hrel, fun i hi => ?_⟩
  exact if_neg (Nat.ne_of_gt (Nat.lt_of_lt_of_le hlt hi))

section Host

variable [CaptureHost σ] [FeedHost σ]

/-- In the idle state a start comes to what the bridge comes to, and so to what the first of its
calls comes to that does not work, unless it crashes to undo the others.

After a start that fails the controller is idle without a device, and nothing feeds or publishes.
It is as it was, but for one more queue in the channel for the next session, which nobody holds.
This channel is open unless the controller was closed, and all who hold queues of it still get what
is sent, and have the items that they had.

Whatever is done later, another start among it, is seen and does as it would have without the
start that failed.  Only the queues that are subscribed later have the next numbers. -/
theorem failed_start_changes_nothing (cfg : SessionConfig) (feed? : Option Nat)
    {steps : List (Step σ)} (h : (make cfg feed?).Throughout Fair steps) (device : Nat)
    (now : Moment) (s : σ) :
    let c := (make cfg feed?).after steps
    let tried := c.bridge.start c.cfg.capture device c.channel s
    let c' := (c.start device now s).2.1
    c.status.state = .idle →
      Bridge.Undone σ (Bridge.beginning c.cfg.capture device s).1 tried.1 ∧
      (c.start device now s).1 = tried.1.result.map (fun _ => .capturing) ∧
      (c.start device now s).2.2 = tried.2.2 ∧
      ∀ f, tried.1.result = .error f →
        c'.status = .idle ∧ c'.running? = none ∧ c'.bridge.active? = none ∧ c'.feed = c' ∧
        (∀ (now : Moment) (s : σ), c'.tick now s = (c', s)) ∧
        c'.aggregator = c.aggregator ∧ c'.publisher = c.publisher ∧
        ∃ packets : Packets, c.bridge.channel? c.channel = some packets ∧
          c' = c.deserted device packets ∧
          c'.bridge.channel? c.channel = some packets.deserted ∧
          ((make cfg feed?).Throughout Regular steps → packets.closed = false) ∧
          (∀ i q, packets.queue? i = some q → packets.deserted.queue? i = some q ∧
            (0 < q.holders → q.attached = !packets.closed)) ∧
          ∀ later : List (Step σ),
            let number := pastAt c.channel packets.queues.length
            let same := later.map (Step.renumber number)
            Renumbered number (c.after later) (c'.after same) ∧
              c'.gather (fun c x => [c.seen x]) same =
                (c.gather (fun c x => [c.seen x]) later).map (Seen.renumber number) := by
  intro c tried c' hidle
  have hn : c.Numbered := (numbered_make cfg feed?).after steps
  have hg : c.Guarded := (guarded_make cfg feed?).after (numbered_make cfg feed?) h
  obtain ⟨o?, ho⟩ := hn.holds
  obtain rfl := ho.idle_iff.1 hidle
  obtain ⟨packets, hp⟩ := hn.exists_channel
  have hw := hg.wellFormed _ _ hp
  have hr := ho.running?_eq
  obtain ⟨houtcome, hhost, -, herror⟩ := start_of_idle ho hp device now s
  have htried : tried = c.bridge.launch c.cfg.capture device c.channel s :=
    Bridge.start_of_inactive ho.active?_eq _ _ _ _
  refine ⟨?_, houtcome, hhost, fun f hf => ?_⟩
  · rw [htried]
    exact Bridge.undone_launch _ _ _ _ _
  have hc' : c' = c.deserted device packets := by
    rw [← unopened_eq ho]
    exact herror f hf
  have hrenumbered := renumbered_deserted hp hw hr device
  have hr' : c'.running? = none := by
    rw [hc']
    exact hr
  have hchannel : c'.bridge.channel? c.channel = some packets.deserted := by
    rw [hc', deserted, Bridge.channel?_modifyChannel, hp, Option.map_some, if_pos rfl]
  rw [← hc'] at hrenumbered
  refine ⟨?_, hr', ?_, ?_, fun now s => ?_, ?_, ?_, packets, hp, hc', hchannel,
    fun hregular => ?_, fun i q hq => ⟨Channel.queue?_deserted hq, fun hpos =>
      (hw.served hq hpos).1⟩, fun later => ?_⟩
  · rw [hc']
    exact ho.status_eq
  · rw [hc']
    exact ho.active?_eq
  · rw [feed, hr']
  · rw [tick, hr']
    rfl
  · rw [hc']
    rfl
  · rw [hc']
    rfl
  · have hgate : c.Gated := (gated_make cfg feed?).after (numbered_make cfg feed?)
      (guarded_make cfg feed?) hregular
    exact hgate.open_of_idle packets hr hp
  · exact ⟨hrenumbered.after later, hrenumbered.gather_seen later⟩

/-- A host on which every call works, but for the connection while nobody listens. -/
structure Listening where
  listens : Bool

instance : CaptureHost Listening where
  perform
    | .connect _ limit, s =>
      if s.listens then (.done (), s) else (.failed (.connectTimeout limit), s)
    | call, s => ((perform call Willing.mk).1, s)

instance : FeedHost Listening where
  answer _ _ s := (.error .closed, s)

/-- Somebody reads the snapshots, and somebody waits for the packets of the next session. -/
def awaited : List (Step Listening) :=
  [⟨.statistics, true, default, ⟨true⟩⟩, ⟨.subscribe, true, default, ⟨true⟩⟩]

/-- A start fails because nobody listens in time.  Who has subscribed before does not notice, and
the start of the next session works.  A queue that is subscribed then has the number 3 and not 2. -/
theorem failed_start_changes_nothing_timeout :
    let c := (make default none).after awaited
    let c' := (c.start 5 default (⟨false⟩ : Listening)).2.1
    let later : List (Step Listening) :=
      [⟨.start 5, true, default, ⟨true⟩⟩, ⟨.subscribe, true, default, ⟨true⟩⟩]
    (c.start 5 default (⟨false⟩ : Listening)).1 =
        .error (.connectTimeout (default : SessionConfig).capture.connectTimeout) ∧
      c'.status = .idle ∧ (∃ packets, c'.bridge.channel? 0 = some packets ∧
        packets.closed = false ∧ packets.queue? 0 = some ⟨[], false, 0, 1, true⟩) ∧
      c'.gather (fun c x => [c.seen x]) later =
        [.state (.ok .capturing) ⟨true⟩, .subscribed 0 3] := by
  dsimp only
  have hregular : (make default none).Throughout Regular awaited :=
    ⟨regular_of_ne nofun nofun, regular_of_ne nofun nofun, trivial⟩
  have hall := failed_start_changes_nothing default none (hregular.mono fun _ _ hx => hx.1) 5
    default (⟨false⟩ : Listening)
  dsimp only at hall
  obtain ⟨-, houtcome, -, hfails⟩ := hall rfl
  obtain ⟨hstatus, -, -, -, -, -, -, packets, hp, -, hp', hopen, hqueues, hlater⟩ := hfails _ rfl
  obtain ⟨-, hseen⟩ := hlater
    [⟨.start 5, true, default, ⟨true⟩⟩, ⟨.subscribe, true, default, ⟨true⟩⟩]
  have hq : packets.queue? 0 = some ⟨[], false, 0, 1, true⟩ := by
    obtain rfl := Option.some.inj hp
    rfl
  refine ⟨houtcome, hstatus, ⟨_, hp', hopen hregular, (hqueues 0 _ hq).1⟩, ?_⟩
  refine hseen.trans ?_
  obtain rfl := Option.some.inj hp
  rfl

end Host

end Controller

end Session

end PacketMeter
