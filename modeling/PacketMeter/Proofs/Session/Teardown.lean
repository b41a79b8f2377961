import PacketMeter.Proofs.Session.Numbering

/-!
# Every session is ended once

Whoever asks for it, a session ends in one step and stays ended.  `Turnover` lists what comes
and goes with a step: sessions, captures, channels for subscribers and the time of a session.
Along a run each of these lists counts up, and the last four are the same: the capture, the
channel and the time of a session go when the session goes, and at no other time.

A request to stop a session by its number comes late when the session has ended.  It changes
nothing then, however many sessions have begun since.
-/

namespace PacketMeter.Session

open PacketMeter.Capture (Active Bridge)
open PacketMeter.Stats

/-- What was there before and is not there any more. -/
def gone (before after : Option Nat) : List Nat := before.toList.filter fun i => after ≠ some i

theorem gone_of_eq {before after : Option Nat} (h : after = before) : gone before after = [] := by
  cases before with
  | none => rfl
  | some i => simp [gone, h]

theorem gone_none (before : Option Nat) : gone before none = before.toList := by
  cases before <;> simp [gone]

/-- What goes and comes with a step: the sessions that begin and end, the captures that are
stopped, by their readers, the channels for subscribers that are replaced, and the sessions
whose time is ended. -/
structure Turnover where
  begun : List Nat
  ended : List Nat
  stopped : List Nat
  replaced : List Nat
  finished : List Nat

namespace Controller

variable {σ : Type} [FeedHost σ] [CaptureHost σ] {c : Controller}

/-- The number of the session that runs. -/
def current? (c : Controller) : Option Nat := c.running?.map Running.id

/-- The session that is timed. -/
def timed? (c : Controller) : Option Nat :=
  if c.aggregator.started?.isSome then c.current? else none

def turnover (c : Controller) (x : Step σ) : Turnover where
  begun := gone (c.step x).2.current? c.current?
  ended := gone c.current? (c.step x).2.current?
  stopped := gone (c.bridge.active?.map Active.worker) ((c.step x).2.bridge.active?.map Active.worker)
  replaced := gone (some c.channel) (some (c.step x).2.channel)
  finished := gone c.timed? (c.step x).2.timed?

omit [FeedHost σ] [CaptureHost σ] in
theorem Numbered.current?_eq (h : c.Numbered) :
    c.current? = if c.running?.isSome then some c.channel else none := by
  rw [current?]
  cases hr : c.running? with
  | none => rfl
  | some r => exact congrArg some (h.running_eq r hr).1

omit [FeedHost σ] [CaptureHost σ] in
theorem Numbered.timed?_eq (h : c.Numbered) : c.timed? = c.current? := by
  rw [timed?, h.timed_eq, current?]
  cases c.running? <;> rfl

omit [FeedHost σ] [CaptureHost σ] in
theorem Numbered.active?_eq (h : c.Numbered) :
    c.bridge.active?.map Active.worker = c.current? := by
  cases hr : c.running? with
  | none =>
      obtain ⟨o?, ho⟩ := h.holds
      have hs := ho.running_eq
      rw [hr] at hs
      obtain rfl := Option.isNone_iff_eq_none.1 (Option.isSome_eq_false_iff.1 hs.symm)
      rw [ho.active?_eq, current?, hr]
      rfl
  | some r =>
      rw [h.current?_eq, hr]
      exact (h.running_eq r hr).2.2

/-- What comes and goes in the three kinds of steps. -/
theorem Numbered.turnover_cases (h : c.Numbered) (x : Step σ) :
    (c.turnover x = ⟨[], [], [], [], []⟩ ∧ (c.step x).2.sessions = c.sessions ∧
        (c.step x).2.channel = c.channel) ∨
      (c.turnover x = ⟨[c.sessions], [], [], [], []⟩ ∧ (c.step x).2.sessions = c.sessions + 1 ∧
        (c.step x).2.channel = c.channel) ∨
      (c.turnover x = ⟨[], [c.channel], [c.channel], [c.channel], [c.channel]⟩ ∧
        (c.step x).2.sessions = c.sessions ∧ (c.step x).2.channel = c.channel + 1 ∧
        ∃ r, r.id = c.channel ∧ x.action.EndsSession c c.channel ∧
          Ended σ c r x.now (c.Closes x) (c.step x).2) := by
  have h' := h.step x
  have ht : c.turnover x = ⟨gone (c.step x).2.current? c.current?,
      gone c.current? (c.step x).2.current?, gone c.current? (c.step x).2.current?,
      gone (some c.channel) (some (c.step x).2.channel),
      gone c.current? (c.step x).2.current?⟩ := by
    rw [turnover, h.active?_eq, h'.active?_eq, h.timed?_eq, h'.timed?_eq]
  cases moves_step h x with
  | still hs =>
      have hc : (c.step x).2.current? = c.current? := by
        rw [h.current?_eq, h'.current?_eq, hs.isSome_running_eq, hs.channel_eq]
      refine .inl ⟨?_, hs.sessions_eq, hs.channel_eq⟩
      rw [ht, gone_of_eq hc, gone_of_eq hc.symm, gone_of_eq (congrArg some hs.channel_eq)]
  | opens device packets ha hr hp hc =>
      have hb : c.current? = none := by rw [current?, hr]; rfl
      have hn : (c.step x).2.current? = some c.sessions := by rw [hc]; rfl
      have hch : (c.step x).2.channel = c.channel := by rw [hc]; rfl
      refine .inr (.inl ⟨?_, by rw [hc]; rfl, hch⟩)
      rw [ht, hb, hn, gone_none, gone_of_eq (congrArg some hch)]
      rfl
  | ends r ha he =>
      obtain ⟨hid, -⟩ := h.running_eq r he.running_eq
      have hb : c.current? = some c.channel := by
        rw [h.current?_eq, he.running_eq]
        rfl
      have hn : (c.step x).2.current? = none := by rw [current?, he.gone]; rfl
      have hch : (c.step x).2.channel = c.channel + 1 := he.channel_eq.trans h.length_eq
      refine .inr (.inr ⟨?_, he.sessions_eq, hch, r, hid, hid ▸ ha, he⟩)
      rw [ht, hb, hn, gone_none, hch]
      simp [gone]

/-- What counts up by one or stays with every step counts up along a run. -/
theorem Numbered.gather_eq_range {f : Controller → Step σ → List Nat} {n : Controller → Nat}
    (hf : ∀ c x, c.Numbered → (f c x = [] ∧ n (c.step x).2 = n c) ∨
      (f c x = [n c] ∧ n (c.step x).2 = n c + 1))
    (h : c.Numbered) (h₀ : n c = 0) (steps : List (Step σ)) :
    c.gather f steps = List.range (n (c.after steps)) := by
  induction steps using List.reverseRecOn with
  | nil => rw [after_nil, h₀]; rfl
  | append_singleton steps x ih =>
      rw [gather_concat, after_concat, ih]
      rcases hf _ x (h.after steps) with ⟨he, hn⟩ | ⟨he, hn⟩
      · rw [he, hn, List.append_nil]
      · rw [he, hn, List.range_succ]

/-- A request to stop another session than the one that runs changes nothing. -/
theorem stop_of_ne_current {id : Nat} (h : c.current? ≠ some id) (now : Moment) (s : σ) :
    c.stop (some id) now s = (c.status.state, c, s) := by
  unfold stop
  split
  · rfl
  · rename_i r hr
    have hne : (id == r.id) = false := by
      rw [beq_eq_false_iff_ne]
      rintro rfl
      exact h (by rw [current?, hr]; rfl)
    rw [Option.all_some, hne, if_neg Bool.false_ne_true]

/-- A pending request to stop another session than the one that runs is only forgotten. -/
theorem depart_of_ne_current {id : Nat} {departures : List Nat}
    (hd : c.departures = id :: departures) (h : c.current? ≠ some id) (now : Moment) (s : σ) :
    c.depart now s = ({ c with departures }, s) := by
  have hs := stop_of_ne_current (c := { c with departures }) h now s
  rw [depart, hd]
  dsimp only
  rw [hs]

end Controller

/-! ## What the engine is told -/

/-- A host with the number of times that it was asked to stop its engine. -/
structure Watched (σ : Type) where
  host : σ
  stops : Nat

namespace Watched

variable {σ : Type}

/-- How often a call asks to stop the engine. -/
def weight {α : Type} : HostCall α → Nat
  | .stop => 1
  | _ => 0

instance [CaptureHost σ] : CaptureHost (Watched σ) where
  perform call s :=
    let (outcome, host) := perform call s.host
    (outcome, ⟨host, s.stops + weight call⟩)

instance [FeedHost σ] : FeedHost (Watched σ) where
  answer feed call s :=
    let (answer, host) := FeedHost.answer feed call s.host
    (answer, { s with host })

theorem stops_of_perform_eq [CaptureHost σ] {α : Type} {call : HostCall α} {s s' : Watched σ}
    {outcome : Outcome α} (h : perform call s = (outcome, s')) :
    s'.stops = s.stops + weight call :=
  congrArg (fun o => o.2.stops) h.symm

section Feed

theorem stops_andThen {α β : Type} {asked : Except Failure α × Watched σ}
    {next : α → Watched σ → Except Failure β × Watched σ}
    (h : ∀ a s, (next a s).2.stops = s.stops) :
    (Feed.andThen asked next).2.stops = asked.2.stops := by
  obtain ⟨outcome, s⟩ := asked
  cases outcome with
  | error f => rfl
  | ok a => exact h a s

/-- A snapshot does not stop the engine. -/
theorem stops_publish [FeedHost σ] (c : Controller) (now : Moment) (s : Watched σ) :
    (c.publish now s).2.stops = s.stops := by
  have htally : (c.aggregator.tally s).2.stops = s.stops := by
    unfold Aggregator.tally
    split
    · refine stops_andThen fun _ s => ?_
      refine (stops_andThen fun _ s => ?_).trans rfl
      refine (stops_andThen fun _ s => ?_).trans rfl
      refine (stops_andThen fun _ s => ?_).trans rfl
      exact stops_andThen fun _ _ => rfl
    · rfl
  change (c.aggregator.tick now s).2.2.stops = _
  rw [← htally]
  unfold Aggregator.tick
  split <;> (rename_i he; rw [he])

end Feed

section Host

variable [CaptureHost σ]

theorem stops_join (b : Bridge) (cfg : CaptureConfig) (worker : Nat) (s : Watched σ) :
    (b.join cfg worker s).2.2.stops = s.stops := by
  unfold Bridge.join
  split
  · split <;> (rename_i he; exact stops_of_perform_eq he)
  · rfl

/-- The stop of an active capture stops the engine once, whatever it comes to. -/
theorem stops_stop {b : Bridge} (h : b.active?.isSome) (cfg : CaptureConfig) (s : Watched σ) :
    (b.stop cfg s).2.2.stops = s.stops + 1 := by
  obtain ⟨active, ha⟩ := Option.isSome_iff_exists.1 h
  rw [Bridge.stop, ha]
  dsimp only
  split
  · rename_i he
    exact stops_of_perform_eq he
  · rename_i s₁ _ he
    have hs : (perform HostCall.shutdown s₁).2.stops = s.stops + 1 := stops_of_perform_eq he
    split
    · rename_i hr
      rw [stops_of_perform_eq hr, hs]
      rfl
    · rename_i hr
      rw [stops_join, stops_of_perform_eq hr, hs]
      rfl

theorem stops_finish [FeedHost σ] {c : Controller} {r : Running} (h : c.Numbered)
    (hr : c.running? = some r) (now : Moment) (s : Watched σ) :
    (c.finish r now s).2.stops = s.stops + 1 := by
  have ha : c.bridge.active?.isSome := by
    rw [← Option.isSome_map (f := Active.worker), (h.running_eq r hr).2.2]
    rfl
  have hstop := stops_stop (b := ((c.bridge.modifyChannel r.channel Channel.close).openChannel
    c.cfg.capture.capacity c.cfg.capture.batch).2) ha c.cfg.capture s
  rw [← hstop]
  exact stops_publish _ now _

end Host

end Watched

namespace Controller

variable {σ : Type} [FeedHost σ] [CaptureHost σ] {c : Controller}

theorem Numbered.channel_le (h : c.Numbered) (steps : List (Step σ)) :
    c.channel ≤ (c.after steps).channel := by
  induction steps generalizing c with
  | nil => exact le_rfl
  | cons x steps ih =>
      refine le_trans ?_ (ih (h.step x))
      rcases h.turnover_cases x with ⟨-, -, hc⟩ | ⟨-, -, hc⟩ | ⟨-, -, hc, -⟩ <;> omega

/-- A stop that is about the session that runs ends it, and stops the engine once. -/
theorem Numbered.stop_of_current (h : c.Numbered) {id : Nat} (hid : c.current? = some id)
    {only? : Option Nat} (ho : only? = none ∨ only? = some id) (now : Moment) (s : Watched σ) :
    (c.stop only? now s).2.1.current? = none ∧
      (c.stop only? now s).2.2.stops = s.stops + 1 := by
  obtain ⟨r, hr, rfl⟩ := Option.map_eq_some_iff.1 hid
  rw [stop_of_running hr ho]
  refine ⟨?_, Watched.stops_finish h hr now s⟩
  rw [current?, (ended_finish h hr now s).gone]
  rfl

/-- A pending request to stop the session that runs ends it when it is granted. -/
theorem Numbered.depart_of_current (h : c.Numbered) {id : Nat} (hid : c.current? = some id)
    {departures : List Nat} (hd : c.departures = id :: departures) (now : Moment)
    (s : Watched σ) :
    (c.depart now s).1.current? = none ∧ (c.depart now s).2.stops = s.stops + 1 := by
  have hstop := (h.with_departures departures).stop_of_current hid (.inr rfl) now s
  rw [depart, hd]
  exact hstop

/-- Sessions begin and end one after the other, and none begins or ends twice.  With every
session that ends, and at no other time, its capture is stopped, its channel is replaced and
its time is ended, each once, and one more snapshot is published.  Only a request that is
about the session ends it.  Such a request does end it and stops the engine once, be it made
by a caller or pending since the reader of the session has exited.  A request that is about
another session changes nothing, and a session that has ended never runs again, so that every
later request for it changes nothing. -/
theorem every_session_ends_once (cfg : SessionConfig) (feed? : Option Nat)
    (steps : List (Step σ)) :
    let c := (make cfg feed?).after steps
    let passed := fun f : Turnover → List Nat =>
      (make cfg feed?).gather (fun c x => f (c.turnover x)) steps
    passed Turnover.begun = List.range c.sessions ∧
      passed Turnover.ended = List.range c.channel ∧
      passed Turnover.stopped = List.range c.channel ∧
      passed Turnover.replaced = List.range c.channel ∧
      passed Turnover.finished = List.range c.channel ∧
      c.sessions = c.channel + c.current?.toList.length ∧
      (∀ id, c.current? = some id → id = c.channel) ∧
      (∀ (x : Step σ), ∀ id ∈ (c.turnover x).ended,
        ∃ r, r.id = id ∧ x.action.EndsSession c id ∧ Ended σ c r x.now (c.Closes x) (c.step x).2) ∧
      (∀ id, c.current? = some id → ∀ only?, only? = none ∨ only? = some id →
        ∀ now (s : Watched σ), (c.stop only? now s).2.1.current? = none ∧
          (c.stop only? now s).2.2.stops = s.stops + 1) ∧
      (∀ id, c.current? = some id → ∀ departures, c.departures = id :: departures →
        ∀ now (s : Watched σ), (c.depart now s).1.current? = none ∧
          (c.depart now s).2.stops = s.stops + 1) ∧
      (∀ id, c.current? ≠ some id → ∀ now (s : σ),
        c.stop (some id) now s = (c.status.state, c, s) ∧
          ∀ departures, c.departures = id :: departures →
            c.depart now s = ({ c with departures }, s)) ∧
      (c.current? = none → ∀ only? now (s : σ), c.stop only? now s = (c.status.state, c, s)) ∧
      ∀ id ∈ passed Turnover.ended, ∀ rest : List (Step σ),
        (c.after rest).current? ≠ some id := by
  intro c passed
  have hmake := numbered_make cfg feed?
  have h : c.Numbered := hmake.after steps
  -- All that goes with a session goes as the number of the channel counts up.
  have hpassed : ∀ f : Turnover → List Nat,
      (∀ n, f ⟨[n], [], [], [], []⟩ = []) → f ⟨[], [], [], [], []⟩ = [] →
      (∀ n, f ⟨[], [n], [n], [n], [n]⟩ = [n]) → passed f = List.range c.channel := by
    intro f hopens hstill hends
    refine hmake.gather_eq_range (n := Controller.channel) ?_ rfl steps
    intro c x hc
    rcases hc.turnover_cases x with ⟨ht, -, hn⟩ | ⟨ht, -, hn⟩ | ⟨ht, -, hn, -⟩
    · exact .inl ⟨ht ▸ hstill, hn⟩
    · exact .inl ⟨ht ▸ hopens _, hn⟩
    · exact .inr ⟨ht ▸ hends _, hn⟩
  have hended := hpassed Turnover.ended (fun _ => rfl) rfl fun _ => rfl
  refine ⟨?_, hended, hpassed Turnover.stopped (fun _ => rfl) rfl fun _ => rfl,
    hpassed Turnover.replaced (fun _ => rfl) rfl fun _ => rfl,
    hpassed Turnover.finished (fun _ => rfl) rfl fun _ => rfl, ?_, ?_, ?_, ?_, ?_, ?_, ?_, ?_⟩
  · refine hmake.gather_eq_range (n := Controller.sessions) ?_ rfl steps
    intro c x hc
    rcases hc.turnover_cases x with ⟨ht, hn, -⟩ | ⟨ht, hn, -⟩ | ⟨ht, hn, -⟩
    · exact .inl ⟨congrArg _ ht, hn⟩
    · exact .inr ⟨congrArg _ ht, hn⟩
    · exact .inl ⟨congrArg _ ht, hn⟩
  · rw [h.current?_eq, h.sessions_eq]
    cases c.running? <;> rfl
  · intro id hid
    obtain ⟨r, hr, rfl⟩ := Option.map_eq_some_iff.1 hid
    exact (h.running_eq r hr).1
  · intro x id hid
    rcases h.turnover_cases x with ⟨ht, -⟩ | ⟨ht, -⟩ | ⟨ht, -, -, r, hr, ha, he⟩
    · rw [ht] at hid
      cases hid
    · rw [ht] at hid
      cases hid
    · rw [ht] at hid
      obtain rfl := List.mem_singleton.1 hid
      exact ⟨r, hr, ha, he⟩
  · intro id hid only? ho now s
    exact h.stop_of_current hid ho now s
  · intro id hid departures hd now s
    exact h.depart_of_current hid hd now s
  · intro id hid now s
    exact ⟨stop_of_ne_current hid now s, fun departures hd => depart_of_ne_current hd hid now s⟩
  · intro hn only? now s
    exact stop_of_not_running only? now s (Option.map_eq_none_iff.1 hn)
  · intro id hid rest hc
    rw [hended, List.mem_range] at hid
    obtain ⟨r, hr, rfl⟩ := Option.map_eq_some_iff.1 hc
    have hle := h.channel_le rest
    have he := ((h.after rest).running_eq r hr).1
    omega

/-- The request that a stopped session leaves behind comes when the next session runs, which
is left alone then and also by later requests.  A session whose reader has exited ends with
the request that it left itself. -/
theorem every_session_ends_once_late :
    let begun := (make default none).after [⟨.start 3, true, default, Willing.mk⟩]
    let stop : Step Willing := ⟨.stop none, true, default, Willing.mk⟩
    let exited := (make default none).after [⟨.start 3, true, default, Willing.mk⟩,
      ⟨.disconnect 0, false, default, Willing.mk⟩, ⟨.feed, false, default, Willing.mk⟩]
    let steps := [⟨.start 3, true, default, Willing.mk⟩, stop,
      ⟨.start 5, true, default, Willing.mk⟩]
    let c := (make default none).after steps
    (∃ r, r.id = 0 ∧ stop.action.EndsSession begun 0 ∧
        Ended Willing begun r stop.now (begun.Closes stop) (begun.step stop).2) ∧
      ((begun.stop none default (Watched.mk Willing.mk 0)).2.2.stops = 1) ∧
      ((exited.depart default (Watched.mk Willing.mk 0)).1.current? = none ∧
        (exited.depart default (Watched.mk Willing.mk 0)).2.stops = 1) ∧
      (make default none).gather (fun c x => (c.turnover x).ended) steps = [0] ∧
      c.current? = some 1 ∧ c.departures = [0] ∧
      c.depart default Willing.mk = ({ c with departures := [] }, Willing.mk) ∧
      (c.after [stop]).stop none default Willing.mk = (.idle, c.after [stop], Willing.mk) ∧
      (c.after [stop]).current? ≠ some 0 := by
  intro begun stop exited steps c
  obtain ⟨-, -, -, -, -, -, -, hends, hstops, -⟩ :=
    every_session_ends_once default none [⟨.start 3, true, default, Willing.mk⟩]
  obtain ⟨-, -, -, -, -, -, -, -, -, hdeparts, -⟩ :=
    every_session_ends_once default none [⟨.start 3, true, default, Willing.mk⟩,
      ⟨.disconnect 0, false, default, Willing.mk⟩, ⟨.feed, false, default, Willing.mk⟩]
  obtain ⟨-, hended, -, -, -, -, -, -, -, -, hother, -, hnever⟩ :=
    every_session_ends_once default none steps
  obtain ⟨-, -, -, -, -, -, -, -, -, -, -, hidle, -⟩ :=
    every_session_ends_once default none (steps ++ [stop])
  refine ⟨hends stop 0 (by decide), (hstops 0 rfl none (.inl rfl) default ⟨Willing.mk, 0⟩).2,
    hdeparts 0 rfl [] rfl default ⟨Willing.mk, 0⟩,
    hended, rfl, rfl, ?_, ?_, hnever 0 (by decide) [stop]⟩
  · exact (hother 0 (by decide) default Willing.mk).2 [] rfl
  · rw [after_append] at hidle
    exact hidle (by decide) none default Willing.mk

end Controller

end PacketMeter.Session
