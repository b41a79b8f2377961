import Mathlib.Data.List.Chain
import PacketMeter.Proofs.Session.Action

/-!
# The life of a session

Four things tell that there is a session: what the controller says, what it has said
before, the session that it runs and the active capture of its bridge.  They agree
whenever no action is under way: either all know of no session, or all know of one, and
its device is that of the start which opened it.

The states that a controller goes through are the idle state, the start of a session, the
session and its end, and idle again; a start that fails leads back to the idle state at
once.  An action that begins a transition also ends it, so that nothing is left in the
middle, whatever calls of the host failed.
-/

namespace PacketMeter.Session

open PacketMeter.Stats

/-! ## States -/

/-- The states that may come right after a state. -/
def State.next : State → List State
  | idle => [starting]
  | starting => [capturing, idle]
  | capturing => [stopping]
  | stopping => [idle]

/-- What is known of a session: the device that it was opened with, and when. -/
structure Opening where
  device : Nat
  started : Timestamp
  deriving Repr, DecidableEq, Inhabited

namespace Status

/-- What is said when a session runs, or none does. -/
def of : Option Opening → Status
  | none => idle
  | some o => ⟨.capturing, some o.device, some o.started⟩

/-- What may be said right after something else.  A session keeps its device, and its
start until it has ended. -/
structure Leads (a b : Status) : Prop where
  next : b.state ∈ a.state.next
  device_eq : a.state ≠ .idle → b.state ≠ .idle → b.device? = a.device?
  started_eq : b.state = .stopping → b.started? = a.started?

/-- A device is known outside of the idle state, and a start from the time when the
session has worked. -/
structure Proper (a : Status) : Prop where
  device_iff : a.device?.isSome ↔ a.state ≠ .idle
  started_iff : a.started?.isSome ↔ a.state = .capturing ∨ a.state = .stopping

theorem of_injective {o? o'? : Option Opening} (h : of o? = of o'?) : o? = o'? := by
  cases o? with
  | none =>
      cases o'? with
      | none => rfl
      | some o' => cases h
  | some o =>
      cases o'? with
      | none => cases h
      | some o' =>
          cases o
          cases o'
          simp only [of, mk.injEq, Option.some.injEq, true_and] at h
          obtain ⟨rfl, rfl⟩ := h
          rfl

theorem leads_starting (device : Nat) : Leads idle ⟨.starting, some device, none⟩ where
  next := List.mem_cons_self
  device_eq h := absurd rfl h
  started_eq h := nomatch h

theorem leads_capturing (device : Nat) (started : Timestamp) :
    Leads ⟨.starting, some device, none⟩ (of (some ⟨device, started⟩)) where
  next := List.mem_cons_self
  device_eq _ _ := rfl
  started_eq h := nomatch h

theorem leads_stopping (o : Opening) :
    Leads (of (some o)) ⟨.stopping, some o.device, some o.started⟩ where
  next := List.mem_cons_self
  device_eq _ _ := rfl
  started_eq _ := rfl

theorem leads_idle {a : Status} (h : .idle ∈ a.state.next) : Leads a (of none) where
  next := h
  device_eq _ h := absurd rfl h
  started_eq h := nomatch h

theorem proper_starting (device : Nat) : Proper ⟨.starting, some device, none⟩ :=
  ⟨by simp, by simp⟩

theorem proper_stopping (o : Opening) : Proper ⟨.stopping, some o.device, some o.started⟩ :=
  ⟨by simp, by simp⟩

theorem proper_of (o? : Option Opening) : (of o?).Proper := by
  cases o? with
  | none => exact ⟨by decide, by decide⟩
  | some o => exact ⟨by simp [of], by simp [of]⟩

end Status

/-- What an action can do, as the statuses that it passes and the session after it. -/
inductive Turn (a : Action) (now : Moment) :
    Option Opening → List Status → Option Opening → Prop
  | rest (o? : Option Opening) : Turn a now o? [] o?
  | opens (device : Nat) (h : a = .start device) :
      Turn a now none [.idle, ⟨.starting, some device, none⟩] (some ⟨device, now.clock⟩)
  | fails (device : Nat) (h : a = .start device) :
      Turn a now none [.idle, ⟨.starting, some device, none⟩] none
  | ends (o : Opening) :
      Turn a now (some o) [.of (some o), ⟨.stopping, some o.device, some o.started⟩] none

/-- What is said in a turn begins with what was said before it, and every status leads to
the next. -/
theorem Turn.exists_cons {a : Action} {now : Moment} {o? o'? : Option Opening}
    {said : List Status} (h : Turn a now o? said o'?) :
    ∃ rest, said ++ [.of o'?] = .of o? :: rest ∧ (Status.of o? :: rest).IsChain Status.Leads ∧
      ∀ b ∈ rest, b.Proper := by
  cases h with
  | rest o? => exact ⟨[], rfl, List.isChain_singleton _, by simp⟩
  | opens device h =>
      refine ⟨[⟨.starting, some device, none⟩, .of (some ⟨device, now.clock⟩)], rfl, ?_, ?_⟩
      · exact .cons_cons (Status.leads_starting device)
          (.cons_cons (Status.leads_capturing device now.clock) (.singleton _))
      · rw [List.forall_mem_cons, List.forall_mem_singleton]
        exact ⟨Status.proper_starting device, Status.proper_of _⟩
  | fails device h =>
      refine ⟨[⟨.starting, some device, none⟩, .of none], rfl, ?_, ?_⟩
      · exact .cons_cons (Status.leads_starting device)
          (.cons_cons (Status.leads_idle (List.mem_cons_of_mem _ List.mem_cons_self))
            (.singleton _))
      · rw [List.forall_mem_cons, List.forall_mem_singleton]
        exact ⟨Status.proper_starting device, Status.proper_of _⟩
  | ends o =>
      refine ⟨[⟨.stopping, some o.device, some o.started⟩, .of none], rfl, ?_, ?_⟩
      · exact .cons_cons (Status.leads_stopping o)
          (.cons_cons (Status.leads_idle List.mem_cons_self) (.singleton _))
      · rw [List.forall_mem_cons, List.forall_mem_singleton]
        exact ⟨Status.proper_stopping o, Status.proper_of _⟩

namespace Controller

/-! ## What tells that there is a session -/

/-- All that a controller has said, and what it says now. -/
def history (c : Controller) : List Status := c.passed ++ [c.status]

/-- All that tells of a session tells of the same one, or of none. -/
structure Holds (c : Controller) (o? : Option Opening) : Prop where
  status_eq : c.status = .of o?
  running_eq : c.running?.isSome = o?.isSome
  device_eq : c.bridge.device? = o?.map Opening.device

/-- An action has taken a controller from a session or none to another. -/
def Turned (a : Action) (now : Moment) (o? : Option Opening) (c c' : Controller) : Prop :=
  ∃ said o'?, Turn a now o? said o'? ∧ c'.Holds o'? ∧ c'.passed = c.passed ++ said

section Turns

variable {c c' c'' : Controller} {o? : Option Opening} {a : Action} {now : Moment}

theorem Holds.active?_eq (h : c.Holds none) : c.bridge.active? = none :=
  Option.map_eq_none_iff.1 h.device_eq

theorem Holds.exists_eq_some (h : c.Holds o?) {r : Running} (hr : c.running? = some r) :
    ∃ o, o? = some o := by
  rw [← Option.isSome_iff_exists, ← h.running_eq, hr]
  rfl

theorem Holds.history_eq (h : c.Holds o?) : c.history = c.passed ++ [.of o?] := by
  rw [history, h.status_eq]

/-- What is said after the status that a history ends with is added to the history. -/
theorem Holds.history_of_passed {o'? : Option Opening} {said : List Status} (h : c.Holds o?)
    (hh : c'.Holds o'?) (hp : c'.passed = c.passed ++ .of o? :: said) :
    c'.history = c.history ++ (said ++ [.of o'?]) := by
  rw [hh.history_eq, hp, h.history_eq, List.append_assoc, List.append_assoc]
  rfl

theorem Holds.quiet (h : c.Holds o?) (hq : Quiet c c') : c'.Holds o? where
  status_eq := hq.status_eq.trans h.status_eq
  running_eq := hq.isSome_running_eq.trans h.running_eq
  device_eq := by rw [← h.device_eq, Capture.Bridge.device?, hq.active_eq, Capture.Bridge.device?]

theorem Holds.turned (h : c.Holds o?) (hq : Quiet c c') : Turned a now o? c c' :=
  ⟨[], o?, .rest o?, h.quiet hq, by rw [hq.passed_eq, List.append_nil]⟩

theorem Turned.quiet_left (h : Turned a now o? c' c'') (hq : Quiet c c') :
    Turned a now o? c c'' := by
  obtain ⟨said, o'?, ht, hh, hp⟩ := h
  exact ⟨said, o'?, ht, hh, by rw [hp, hq.passed_eq]⟩

theorem Turned.quiet_right (h : Turned a now o? c c') (hq : Quiet c' c'') :
    Turned a now o? c c'' := by
  obtain ⟨said, o'?, ht, hh, hp⟩ := h
  exact ⟨said, o'?, ht, hh.quiet hq, by rw [hq.passed_eq, hp]⟩

end Turns

section Host

variable {σ : Type} [FeedHost σ] [CaptureHost σ] {c : Controller} {o? : Option Opening}

omit [FeedHost σ] in
/-- A start in the idle state says that it starts, and then it has worked or failed. -/
theorem start_cases (h : c.Holds none) (device : Nat) (now : Moment) (s : σ) :
    (c.start device now s).2.1.passed = c.passed ++ [.idle, ⟨.starting, some device, none⟩] ∧
      ((c.start device now s).2.1.Holds (some ⟨device, now.clock⟩) ∨
        (c.start device now s).2.1.Holds none) := by
  have hidle : c.status.state = .idle := by
    rw [h.status_eq]
    rfl
  rw [start, if_pos hidle]
  dsimp only
  have hq := quiet_subscribe (c.move .starting (some device) none)
  generalize (c.move .starting (some device) none).subscribe = subscribed at hq ⊢
  obtain ⟨⟨channel, queue⟩, c₁⟩ := subscribed
  have hpassed : c₁.passed ++ [c₁.status] =
      c.passed ++ [.idle, ⟨.starting, some device, none⟩] := by
    rw [hq.passed_eq, hq.status_eq]
    simp [move, h.status_eq, Status.of, Status.idle]
  -- The subscription in between changes nothing, so the bridge is inactive when it is asked.
  have ha : c₁.bridge.active? = none := hq.active_eq.trans h.active?_eq
  have hl := Capture.Bridge.launch_cases ha c₁.cfg.capture device channel s
  dsimp only
  rw [Capture.Bridge.start_of_inactive ha]
  generalize c₁.bridge.launch c₁.cfg.capture device channel s = launched at hl ⊢
  obtain ⟨outcome, bridge, s'⟩ := launched
  rcases hl with ⟨rfl, hdevice⟩ | ⟨⟨f, hf⟩, hnone⟩
  · exact ⟨hpassed, .inl ⟨rfl, rfl, hdevice⟩⟩
  · dsimp only at hf hnone ⊢
    rw [hf]
    have hrunning : c₁.running?.isSome = false := hq.isSome_running_eq.trans h.running_eq
    exact ⟨hpassed, .inr ⟨rfl, hrunning, Option.map_eq_none_iff.2 hnone⟩⟩

omit [FeedHost σ] in
theorem turned_start (h : c.Holds none) (device : Nat) (now : Moment) (s : σ) :
    Turned (.start device) now none c (c.start device now s).2.1 := by
  obtain ⟨hp, hh | hh⟩ := start_cases h device now s
  · exact ⟨_, _, .opens device rfl, hh, hp⟩
  · exact ⟨_, _, .fails device rfl, hh, hp⟩

omit [FeedHost σ] in
/-- A controller that is ending its session and has stopped the capture. -/
def halted (c : Controller) (running : Running) (s : σ) : Controller :=
  let c := ({ c with running? := none }.move .stopping c.status.device? none).renew running
  { c with bridge := (c.bridge.stop c.cfg.capture s).2.1 }

/-- What is left of an ending after the capture was stopped changes only what the
controller says. -/
theorem exists_quiet_halted (c : Controller) (running : Running) (now : Moment) (s : σ) :
    ∃ c', Quiet (c.halted running s) c' ∧
      (c.finish running now s).1 = c'.move .idle none none := by
  refine ⟨_, ?_, rfl⟩
  exact (quiet_drain (c.halted running s) running).trans ⟨rfl, rfl, rfl, rfl⟩

/-- The end of a session says that it stops, and leaves the controller without one. -/
theorem finish_said {o : Opening} (h : c.Holds (some o)) (running : Running) (now : Moment)
    (s : σ) :
    (c.finish running now s).1.passed =
        c.passed ++ [.of (some o), ⟨.stopping, some o.device, some o.started⟩] ∧
      (c.finish running now s).1.Holds none := by
  obtain ⟨c', hq, hf⟩ := exists_quiet_halted c running now s
  rw [hf]
  refine ⟨?_, rfl, ?_, ?_⟩
  · have hpassed : c'.passed ++ [c'.status] =
        c.passed ++ [c.status] ++ [⟨.stopping, c.status.device?, c.status.started?⟩] := by
      rw [hq.passed_eq, hq.status_eq]
      rfl
    rw [h.status_eq, List.append_assoc] at hpassed
    exact hpassed
  · exact hq.isSome_running_eq
  · have hactive : c'.bridge.active? = none :=
      hq.active_eq.trans (Capture.Bridge.active?_stop _ _ s)
    exact Option.map_eq_none_iff.2 hactive

/-- A stop that is about the session that runs ends it. -/
theorem stop_of_running {r : Running} (hr : c.running? = some r) {only? : Option Nat}
    (ho : only? = none ∨ only? = some r.id) (now : Moment) (s : σ) :
    c.stop only? now s = (.idle, c.finish r now s) := by
  have hall : only?.all (· == r.id) = true := by
    rcases ho with rfl | rfl
    · rfl
    · exact beq_self_eq_true r.id
  rw [stop, hr]
  dsimp only
  rw [hall, if_pos rfl]

/-- A stop does nothing, or ends the session that runs. -/
theorem stop_cases (c : Controller) (only? : Option Nat) (now : Moment) (s : σ) :
    (c.stop only? now s).2.1 = c ∧ (only? = none → c.running? = none) ∨
      ∃ r, c.running? = some r ∧ (only? = none ∨ only? = some r.id) ∧
        (c.stop only? now s).2.1 = (c.finish r now s).1 := by
  unfold stop
  split
  · rename_i hr
    exact .inl ⟨rfl, fun _ => hr⟩
  · rename_i r hr
    split
    · rename_i hall
      refine .inr ⟨r, hr, ?_, rfl⟩
      cases only? with
      | none => exact .inl rfl
      | some id => exact .inr (congrArg some (by simpa using hall))
    · rename_i hall
      refine .inl ⟨rfl, ?_⟩
      rintro rfl
      exact absurd rfl hall

theorem turned_stop (h : c.Holds o?) (a : Action) (only? : Option Nat) (now : Moment) (s : σ) :
    Turned a now o? c (c.stop only? now s).2.1 := by
  rcases stop_cases c only? now s with ⟨he, -⟩ | ⟨r, hr, -, he⟩
  · rw [he]
    exact h.turned .rfl
  · obtain ⟨o, rfl⟩ := h.exists_eq_some hr
    obtain ⟨hp, hh⟩ := finish_said h r now s
    rw [he]
    exact ⟨_, _, .ends o, hh, hp⟩

/-- An action makes a turn. -/
theorem turned_act (h : c.Holds o?) (a : Action) (now : Moment) (s : σ) :
    Turned a now o? c (c.act now s a).2 := by
  cases a with
  | start device =>
      cases o? with
      | none => exact turned_start h device now s
      | some o =>
          have hne : c.status.state ≠ .idle := by
            rw [h.status_eq]
            exact State.noConfusion
          rw [act, start_of_ne_idle device now s hne]
          exact h.turned .rfl
  | stop only? => exact turned_stop h _ only? now s
  | depart =>
      rw [act, depart]
      cases hd : c.departures with
      | nil => exact h.turned .rfl
      | cons id departures =>
          have hq : Quiet c { c with departures } := ⟨rfl, rfl, rfl, rfl⟩
          exact (turned_stop (h.quiet hq) _ (some id) now s).quiet_left hq
  | close =>
      have hs := turned_stop h .close none now s
      rw [act, close]
      dsimp only
      split
      · exact hs
      · exact hs.quiet_right ⟨rfl, rfl, rfl, rfl⟩
  | _ => exact h.turned (quiet_act rfl c now s)

/-! ## Runs -/

/-- A history begins with the idle state, and every status in it is proper and leads to the
next. -/
structure Lawful (c : Controller) : Prop where
  chain : c.history.IsChain Status.Leads
  proper : ∀ b ∈ c.history, b.Proper
  head_eq : c.history.head? = some .idle

theorem Turned.exists_history {c' : Controller} {a : Action} {now : Moment} (h : c.Holds o?)
    (ht : Turned a now o? c c') :
    ∃ o'? rest, c'.Holds o'? ∧ c'.history = c.history ++ rest ∧
      (Status.of o? :: rest).IsChain Status.Leads ∧ ∀ b ∈ rest, b.Proper := by
  obtain ⟨said, o'?, ht, hh, hp⟩ := ht
  obtain ⟨rest, hr, hchain, hproper⟩ := ht.exists_cons
  refine ⟨o'?, rest, hh, ?_, hchain, hproper⟩
  rw [hh.history_eq, hp, List.append_assoc, hr, h.history_eq, List.append_assoc]
  rfl

theorem Lawful.turned {c' : Controller} {a : Action} {now : Moment} (hc : c.Lawful)
    (h : c.Holds o?) (ht : Turned a now o? c c') : c'.Lawful := by
  obtain ⟨o'?, rest, -, hrest, hchain, hproper⟩ := ht.exists_history h
  refine ⟨?_, ?_, ?_⟩
  -- What the turn says begins with the status that the history ends with.
  · rw [hrest, h.history_eq, List.append_assoc, List.singleton_append, List.isChain_split,
      ← h.history_eq]
    exact ⟨hc.chain, hchain⟩
  · rw [hrest, List.forall_mem_append]
    exact ⟨hc.proper, hproper⟩
  · rw [hrest, List.head?_append, hc.head_eq, Option.some_or]

omit [FeedHost σ] [CaptureHost σ] in
theorem holds_make (cfg : SessionConfig) (feed? : Option Nat) : (make cfg feed?).Holds none :=
  ⟨rfl, rfl, rfl⟩

omit [FeedHost σ] [CaptureHost σ] in
theorem lawful_make (cfg : SessionConfig) (feed? : Option Nat) : (make cfg feed?).Lawful :=
  ⟨List.isChain_singleton _, by
    intro b hb
    obtain rfl := List.mem_singleton.1 hb
    exact Status.proper_of none, rfl⟩

/-- The step of a run that opened its session, after which all steps found the session
running. -/
structure OpenedIn (c : Controller) (steps : List (Step σ)) (o : Opening)
    (before : List (Step σ)) (x : Step σ) (rest : List (Step σ)) : Prop where
  steps_eq : steps = before ++ x :: rest
  action_eq : x.action = .start o.device
  started_eq : o.started = x.now.clock
  idle : (c.after before).Holds none
  since : ∀ more, more <+: rest → (c.after (before ++ x :: more)).Holds (some o)

theorem OpenedIn.concat {steps before rest : List (Step σ)} {o : Opening} {x y : Step σ}
    (h : OpenedIn c steps o before x rest) (hh : (c.after (steps ++ [y])).Holds (some o)) :
    OpenedIn c (steps ++ [y]) o before x (rest ++ [y]) where
  steps_eq := by rw [h.steps_eq, List.append_assoc, List.cons_append]
  action_eq := h.action_eq
  started_eq := h.started_eq
  idle := h.idle
  since := by
    intro more hm
    rcases List.prefix_concat_iff.1 hm with rfl | hm
    · rwa [h.steps_eq, List.append_assoc, List.cons_append] at hh
    · exact h.since more hm

theorem exists_holds (h : c.Holds none) (steps : List (Step σ)) :
    ∃ o?, (c.after steps).Holds o? ∧
      ∀ o, o? = some o → ∃ before x rest, OpenedIn c steps o before x rest := by
  induction steps using List.reverseRecOn with
  | nil => exact ⟨none, h, nofun⟩
  | append_singleton steps y ih =>
      obtain ⟨o?, hh, hopened⟩ := ih
      have hafter : c.after (steps ++ [y]) = ((c.after steps).act y.now y.host y.action).2 := by
        rw [after_append]
        rfl
      obtain ⟨said, o'?, ht, hh', -⟩ := turned_act hh y.action y.now y.host
      rw [← hafter] at hh'
      refine ⟨o'?, hh', ?_⟩
      rintro o rfl
      -- The session runs since before this step, or the step has opened it.
      cases ht with
      | rest =>
          obtain ⟨before, x, rest, hin⟩ := hopened o rfl
          exact ⟨before, x, rest ++ [y], hin.concat hh'⟩
      | opens device ha =>
          refine ⟨steps, y, [], rfl, ha, rfl, hh, ?_⟩
          intro more hm
          rwa [List.prefix_nil.1 hm]

theorem Lawful.after (hc : c.Lawful) (h : c.Holds none) (steps : List (Step σ)) :
    (c.after steps).Lawful := by
  induction steps using List.reverseRecOn with
  | nil => exact hc
  | append_singleton steps y ih =>
      obtain ⟨o?, hh, -⟩ := exists_holds h steps
      rw [after_append]
      exact ih.turned hh (turned_act hh y.action y.now y.host)

/-- What was said is never taken back. -/
theorem history_isPrefix (h : c.Holds o?) (steps : List (Step σ)) :
    c.history <+: (c.after steps).history := by
  induction steps generalizing c o? with
  | nil => exact List.prefix_rfl
  | cons x steps ih =>
      obtain ⟨o'?, rest, hh, hrest, -⟩ :=
        (turned_act h x.action x.now x.host).exists_history h
      exact (List.prefix_append c.history rest).trans (hrest ▸ ih hh)

/-- A session runs exactly when the controller says so. -/
theorem Holds.capturing_iff (h : c.Holds o?) : c.status.state = .capturing ↔ o?.isSome := by
  rw [h.status_eq]
  cases o? with
  | none => exact ⟨nofun, nofun⟩
  | some o => exact ⟨fun _ => rfl, fun _ => rfl⟩

theorem Holds.idle_iff (h : c.Holds o?) : c.status.state = .idle ↔ o? = none := by
  rw [h.status_eq]
  cases o? with
  | none => exact ⟨fun _ => rfl, fun _ => rfl⟩
  | some o => exact ⟨nofun, nofun⟩

theorem Holds.isActive_eq (h : c.Holds o?) : c.bridge.isActive = o?.isSome := by
  have hd := congrArg Option.isSome h.device_eq
  rwa [Capture.Bridge.device?, Option.isSome_map, Option.isSome_map] at hd

omit [FeedHost σ] in
theorem history_start (h : c.Holds none) (device : Nat) (now : Moment) (s : σ) :
    ∃ last, (c.start device now s).2.1.history =
        c.history ++ [⟨.starting, some device, none⟩, last] ∧
      (last = .idle ∨ last = ⟨.capturing, some device, some now.clock⟩) := by
  obtain ⟨hp, hh | hh⟩ := start_cases h device now s
  · exact ⟨_, h.history_of_passed hh hp, .inr rfl⟩
  · exact ⟨_, h.history_of_passed hh hp, .inl rfl⟩

theorem history_finish (h : c.Holds o?) {r : Running} (hr : c.running? = some r) (now : Moment)
    (s : σ) :
    (c.finish r now s).1.history =
      c.history ++ [⟨.stopping, c.status.device?, c.status.started?⟩, .idle] := by
  obtain ⟨o, rfl⟩ := h.exists_eq_some hr
  obtain ⟨hp, hh⟩ := finish_said h r now s
  rw [h.status_eq]
  exact h.history_of_passed hh hp

/-- Whatever is done to a controller and happens to it, with whatever failures, its history
is lawful and is not taken back.  Between actions it is idle or capturing, and it captures
exactly when it has a session and its bridge a capture.  The device is that of the start
which opened the session.  A stop that is about the session says that it stops and ends in
the idle state, whatever calls of the host fail.  Other starts and stops answer with the
state and change nothing, and what neither begins nor ends a session leaves all this alone,
also in the middle of a transition. -/
theorem session_lifecycle (cfg : SessionConfig) (feed? : Option Nat) (steps : List (Step σ)) :
    let c := (make cfg feed?).after steps
    c.Lawful ∧
      (∀ more : List (Step σ), c.history <+: ((make cfg feed?).after (steps ++ more)).history) ∧
      (c.status.state = .idle ∨ c.status.state = .capturing) ∧
      (c.status.state = .capturing ↔ c.running?.isSome ∧ c.bridge.isActive) ∧
      c.running?.isSome = c.bridge.isActive ∧
      (c.status.state = .capturing → ∃ o before x rest,
        OpenedIn (make cfg feed?) steps o before x rest ∧
          c.status = ⟨.capturing, some o.device, some o.started⟩ ∧
          c.bridge.device? = some o.device) ∧
      (c.status.state = .idle → ∀ device now (s : σ), ∃ last,
        (c.start device now s).2.1.history =
            c.history ++ [⟨.starting, some device, none⟩, last] ∧
          (last = .idle ∨ last = ⟨.capturing, some device, some now.clock⟩)) ∧
      (c.status.state ≠ .idle → ∀ device now (s : σ),
        c.start device now s = (.ok c.status.state, c, s)) ∧
      (∀ r, c.running? = some r → ∀ only?, only? = none ∨ only? = some r.id →
        ∀ now (s : σ), (c.stop only? now s).1 = .idle ∧
          (c.stop only? now s).2.1.history =
            c.history ++ [⟨.stopping, c.status.device?, c.status.started?⟩, .idle]) ∧
      (c.running? = none → ∀ only? now (s : σ),
        c.stop only? now s = (c.status.state, c, s)) ∧
      ∀ (c' : Controller) (x : Step σ), x.action.isTransition = false → Quiet c' (c'.step x).2 := by
  intro c
  have hmake := holds_make cfg feed?
  obtain ⟨o?, h, hopened⟩ := exists_holds hmake steps
  have hlawful := (lawful_make cfg feed?).after hmake steps
  have hcapturing := h.capturing_iff
  refine ⟨hlawful, ?_, ?_, ?_, ?_, ?_, ?_, ?_, ?_, ?_, ?_⟩
  · intro more
    rw [after_append]
    exact history_isPrefix h more
  · cases ho : o? with
    | none => exact .inl (h.idle_iff.2 ho)
    | some o => exact .inr (hcapturing.2 (ho ▸ rfl))
  · rw [hcapturing, h.running_eq, h.isActive_eq, and_self]
  · rw [h.running_eq, h.isActive_eq]
  · intro hc
    obtain ⟨o, rfl⟩ := Option.isSome_iff_exists.1 (hcapturing.1 hc)
    obtain ⟨before, x, rest, hin⟩ := hopened o rfl
    exact ⟨o, before, x, rest, hin, h.status_eq, h.device_eq⟩
  · intro hi device now s
    obtain rfl := h.idle_iff.1 hi
    exact history_start h device now s
  · intro hne device now s
    exact start_of_ne_idle device now s hne
  · intro r hr only? ho now s
    rw [stop_of_running hr ho]
    exact ⟨rfl, history_finish h hr now s⟩
  · intro hr only? now s
    exact stop_of_not_running only? now s hr
  · intro c' x hx
    exact quiet_act hx c' x.now x.host

end Host

/-- A host on which every call works. -/
structure Willing where

instance : CaptureHost Willing where
  perform
    | .devices _, s => (.done [], s)
    | .join _, s => (.done true, s)
    | .set, s | .reset, s | .start _, s | .select _, s | .stop, s | .close, s | .connect _ _, s
    | .share, s | .shutdown, s => (.done (), s)

instance : FeedHost Willing where
  answer _ _ s := (.error .closed, s)

/-- The session of a caller who has given up is there for the next start, which changes
nothing, and neither did a stop before it.  A stop ends it. -/
theorem session_lifecycle_abandoned :
    let c₀ := make default none
    let c := c₀.after [⟨.start 3, false, default, Willing.mk⟩]
    c₀.stop none default Willing.mk = (.idle, c₀, Willing.mk) ∧
      (∃ last, (c₀.start 5 default Willing.mk).2.1.history =
        c₀.history ++ [⟨.starting, some 5, none⟩, last]) ∧
      c.status = ⟨.capturing, some 3, some default⟩ ∧ c.bridge.device? = some 3 ∧
      c.start 5 default Willing.mk = (.ok .capturing, c, Willing.mk) ∧
      ((c.stop (some 0) default Willing.mk).1 = .idle ∧
        (c.stop (some 0) default Willing.mk).2.1.history =
          c.history ++ [⟨.stopping, some 3, some default⟩, .idle]) ∧
      (c.step ⟨.disconnect 0, true, default, Willing.mk⟩).2.status = c.status := by
  obtain ⟨-, -, -, -, -, -, hfirst, -, -, hstop, -⟩ :=
    session_lifecycle default none ([] : List (Step Willing))
  obtain ⟨-, -, -, -, -, hopened, -, hstart, hends, -, hquiet⟩ :=
    session_lifecycle default none [⟨.start 3, false, default, Willing.mk⟩]
  obtain ⟨o, before, x, rest, hin, hstatus, hdevice⟩ := hopened rfl
  have hsaid : ((make default none).after [⟨.start 3, false, default, Willing.mk⟩]).status =
      .of (some ⟨3, default⟩) := rfl
  obtain rfl := Option.some.inj (Status.of_injective (hstatus.symm.trans hsaid))
  obtain ⟨last, hlast, -⟩ := hfirst rfl 5 default Willing.mk
  exact ⟨hstop rfl none default _, ⟨last, hlast⟩, hstatus, hdevice, hstart nofun 5 default _,
    hends _ rfl (some 0) (.inr rfl) default _,
    (hquiet _ ⟨.disconnect 0, true, default, Willing.mk⟩ rfl).status_eq⟩

end Controller

end PacketMeter.Session
