import PacketMeter.Proofs.Capture.Calls

/-!
# Engine and signal in balance

Along a run of a bridge its engine has been started once more than it was stopped while a
capture is active, and as often as it was stopped while none is.  The arming signal is set
while a capture is active, as long as setting and resetting it work.

The bridge is taken through its operations, each on a host of its own.  So any call may fail
at any time, whatever the calls before have come to.
-/

namespace PacketMeter.Capture.Bridge

/-! ## Counting calls -/

/-- Whether a note is that the engine was started. -/
def Note.isStart (n : Note) : Bool :=
  match n.request with
  | .start _ => n.worked
  | _ => false

/-- How often the engine was started. -/
def starts (notes : List Note) : Nat := notes.countP Note.isStart

/-- How often the engine was asked to stop. -/
def stops (notes : List Note) : Nat := notes.countP fun n => n.request = .stop

/-- Whether the signal is set after a call. -/
def Note.arm (armed : Bool) (n : Note) : Bool :=
  match n.request with
  | .set => armed || n.worked
  | .reset => armed && !n.worked
  | _ => armed

/-- Whether the signal is set after several calls. -/
def armed (before : Bool) (notes : List Note) : Bool := notes.foldl Note.arm before

/-- Setting and resetting the signal have always worked. -/
def SignalWorks (notes : List Note) : Prop :=
  ∀ n ∈ notes, n.request = .set ∨ n.request = .reset → n.worked = true

instance (notes : List Note) : Decidable (SignalWorks notes) :=
  inferInstanceAs (Decidable (∀ n ∈ notes, n.request = .set ∨ n.request = .reset → n.worked = true))

/-- Some calls take a bridge from one state of activity to another. -/
structure Balances (before : Bool) (notes : List Note) (after : Bool) : Prop where
  engine : starts notes + before.toNat = stops notes + after.toNat
  signal : SignalWorks notes → armed before notes = after

theorem starts_append (notes more : List Note) :
    starts (notes ++ more) = starts notes + starts more := List.countP_append

theorem stops_append (notes more : List Note) :
    stops (notes ++ more) = stops notes + stops more := List.countP_append

theorem armed_append (before : Bool) (notes more : List Note) :
    armed before (notes ++ more) = armed (armed before notes) more := List.foldl_append

theorem signalWorks_append {notes more : List Note} :
    SignalWorks (notes ++ more) ↔ SignalWorks notes ∧ SignalWorks more := List.forall_mem_append

theorem balances_nil (active : Bool) : Balances active [] active := ⟨rfl, fun _ => rfl⟩

theorem Balances.append {before between after : Bool} {notes more : List Note}
    (h : Balances before notes between) (h' : Balances between more after) :
    Balances before (notes ++ more) after where
  engine := by
    have he := h.engine
    have he' := h'.engine
    rw [starts_append, stops_append]
    omega
  signal hw := by
    rw [signalWorks_append] at hw
    rw [armed_append, h.signal hw.1, h'.signal hw.2]

/-- A reader that cannot be attached leaves the engine stopped.  The signal is not touched. -/
theorem Attached.balanced {device : Nat} {worked : Bool} {notes : List Note}
    (h : Attached device worked notes) : starts notes = stops notes + worked.toNat ∧
      ∀ before, armed before notes = before := by
  cases h <;> exact ⟨rfl, fun _ => rfl⟩

/-- To attach a reader the engine is always asked to start. -/
theorem Attached.exists_mem {device : Nat} {worked : Bool} {notes : List Note}
    (h : Attached device worked notes) : ∃ started, ⟨.start device, started⟩ ∈ notes := by
  cases h <;> exact ⟨_, List.mem_cons_self⟩

theorem Launched.balances {device : Nat} {worked : Bool} {notes : List Note}
    (h : Launched device worked notes) : Balances false notes worked := by
  cases h with
  | notArmed => exact ⟨rfl, fun _ => rfl⟩
  | undone attach h reset =>
      -- The attach has undone its own start of the engine, so only the signal is left.
      obtain ⟨hengine, hsignal⟩ := h.balanced
      refine ⟨?_, fun hw => ?_⟩
      · rw [starts_append, stops_append]
        exact hengine
      · have hreset : reset = true := hw ⟨.reset, reset⟩ (List.mem_concat_self) (.inr rfl)
        rw [hreset, armed_append]
        change (armed true attach && !true) = false
        rw [hsignal]
        rfl
  | active attach h =>
      obtain ⟨hengine, hsignal⟩ := h.balanced
      exact ⟨hengine, fun _ => hsignal true⟩

theorem TornDown.balances {reading : Bool} {notes : List Note} (h : TornDown reading notes) :
    Balances true notes false := by
  cases h with
  | exited stopped shut reset =>
      refine ⟨rfl, fun hw => ?_⟩
      obtain rfl : reset = true := hw ⟨.reset, reset⟩ (by simp) (.inr rfl)
      rfl
  | joined stopped shut reset joined =>
      refine ⟨rfl, fun hw => ?_⟩
      obtain rfl : reset = true := hw ⟨.reset, reset⟩ (by simp) (.inr rfl)
      rfl

theorem TornDown.requests {reading : Bool} {notes : List Note} (h : TornDown reading notes) :
    notes.map Note.request =
      [.stop, .shutdown, .reset] ++ (if reading then [.join] else []) := by
  cases h <;> rfl

/-! ## Runs -/

/-- What is done to a bridge.  A reader exits by itself while bytes or the end of its
connection are delivered. -/
inductive Move where
  | start (device channel : Nat)
  | stop
  | release
  | deliver (worker : Nat) (script : List Delivery)
  | disconnect (worker : Nat)
  | openChannel (capacity batch : Nat)
  | modifyChannel (channel : Nat) (f : Packets → Packets)

/-- A move, and the host as it is then. -/
structure Operation (σ : Type) where
  move : Move
  host : σ

section Run

variable {σ : Type} [CaptureHost σ]

/-- The bridge after an operation, and the calls that were made. -/
def operate (cfg : CaptureConfig) (b : Bridge) (x : Operation σ) : Bridge × List Note :=
  match x.move with
  | .start device channel =>
    let (_, b, s) := b.start cfg device channel (Noted.of x.host)
    (b, s.notes)
  | .stop =>
    let (_, b, s) := b.stop cfg (Noted.of x.host)
    (b, s.notes)
  | .release =>
    let (_, b, s) := b.release cfg (Noted.of x.host)
    (b, s.notes)
  | .deliver worker script => (b.deliver worker script, [])
  | .disconnect worker => (b.disconnect worker, [])
  | .openChannel capacity batch => ((b.openChannel capacity batch).2, [])
  | .modifyChannel channel f => (b.modifyChannel channel f, [])

/-- The bridge after several operations, and all calls that were made. -/
def operateAll (cfg : CaptureConfig) (b : Bridge) : List (Operation σ) → Bridge × List Note
  | [] => (b, [])
  | x :: xs =>
    let (b, notes) := operate cfg b x
    let (b, more) := operateAll cfg b xs
    (b, notes ++ more)

theorem isActive_launch {b : Bridge} (h : b.active? = none) (cfg : CaptureConfig)
    (device channel : Nat) (s : σ) :
    (b.launch cfg device channel s).2.1.isActive = (b.launch cfg device channel s).1.isDone := by
  obtain ⟨ho, hd⟩ | ⟨⟨f, ho⟩, ha⟩ := launch_cases h cfg device channel s
  · rw [ho, isActive, ← Option.isSome_map (f := Active.device), ← device?, hd]
    rfl
  · rw [isActive, ha]
    generalize (b.launch cfg device channel s).1 = outcome at ho
    cases outcome with
    | done => cases ho
    | failed | crashed => rfl

theorem isActive_stop (b : Bridge) (cfg : CaptureConfig) (s : σ) :
    (b.stop cfg s).2.1.isActive = false := congrArg Option.isSome (active?_stop b cfg s)

/-- A start works when it leaves a capture active. -/
theorem isActive_start {b : Bridge} (hr : b.isRunning = false) (cfg : CaptureConfig)
    (device channel : Nat) (s : σ) :
    (b.start cfg device channel s).2.1.isActive = (b.start cfg device channel s).1.isDone := by
  have hnone := active?_stop b cfg s
  rw [start, hr, if_neg Bool.false_ne_true]
  generalize b.stop cfg s = o at hnone ⊢
  obtain ⟨outcome, b', s'⟩ := o
  cases outcome with
  | done => exact isActive_launch hnone cfg device channel s'
  | failed f => exact isActive_launch (b := b'.report _) hnone cfg device channel s'
  | crashed => exact congrArg Option.isSome hnone

/-- Letting go of a bridge is stopping it. -/
theorem release_eq_stop (b : Bridge) (cfg : CaptureConfig) (s : σ) :
    (b.release cfg s).2.1.isActive = (b.stop cfg s).2.1.isActive ∧
      (b.release cfg s).2.2 = (b.stop cfg s).2.2 := by
  unfold release
  split
  · rename_i he
    rw [he]
    exact ⟨rfl, rfl⟩
  · exact ⟨rfl, rfl⟩

/-- What readers and receivers do makes no call. -/
theorem balances_quiet {b b' : Bridge} (h : b'.active? = b.active?) :
    Balances b.isActive [] b'.isActive := by
  rw [isActive, isActive, h]
  exact balances_nil _

theorem balances_stop (h : Steady σ) (b : Bridge) (cfg : CaptureConfig) (host : σ) :
    Balances b.isActive (b.stop cfg (Noted.of host)).2.2.notes
      (b.stop cfg (Noted.of host)).2.1.isActive := by
  rw [isActive_stop, isActive]
  cases hb : b.active? with
  | none =>
      rw [stop_of_inactive cfg _ hb]
      exact balances_nil false
  | some active =>
      obtain ⟨notes, hnotes, htorn⟩ := (comes_stop h hb cfg (Noted.of host)).exists_notes
      change (b.stop cfg (Noted.of host)).2.2.notes = notes at hnotes
      rw [hnotes]
      exact htorn.balances

theorem balances_start (h : Steady σ) (b : Bridge) (cfg : CaptureConfig) (device channel : Nat)
    (host : σ) : Balances b.isActive (b.start cfg device channel (Noted.of host)).2.2.notes
      (b.start cfg device channel (Noted.of host)).2.1.isActive := by
  cases hr : b.isRunning with
  | true =>
      rw [start_of_isRunning cfg device channel _ hr]
      exact balances_nil b.isActive
  | false =>
      -- A launch follows a teardown if there is a capture, which then has no reader any more.
      rw [isActive_start hr, isActive]
      cases hb : b.active? with
      | none =>
          rw [start_of_inactive hb]
          obtain ⟨notes, hnotes, hlaunched⟩ :=
            (comes_launch h b cfg device channel (Noted.of host)).exists_notes
          change (b.launch cfg device channel (Noted.of host)).2.2.notes = notes at hnotes
          rw [hnotes]
          exact hlaunched.balances
      | some active =>
          obtain ⟨notes, hnotes, teardown, launch, rfl, htorn, hlaunched⟩ :=
            (comes_start_of_exited h hb hr cfg device channel (Noted.of host)).exists_notes
          change (b.start cfg device channel (Noted.of host)).2.2.notes = teardown ++ launch
            at hnotes
          rw [hnotes]
          exact htorn.balances.append hlaunched.balances

theorem balances_operate (h : Steady σ) (cfg : CaptureConfig) (b : Bridge) (x : Operation σ) :
    Balances b.isActive (operate cfg b x).2 (operate cfg b x).1.isActive := by
  obtain ⟨move, host⟩ := x
  cases move with
  | start device channel => exact balances_start h b cfg device channel host
  | stop => exact balances_stop h b cfg host
  | release =>
      obtain ⟨hactive, hs⟩ := b.release_eq_stop cfg (Noted.of host)
      change Balances b.isActive (b.release cfg (Noted.of host)).2.2.notes
        (b.release cfg (Noted.of host)).2.1.isActive
      rw [hactive, hs]
      exact balances_stop h b cfg host
  | deliver worker script => exact balances_quiet (active?_deliver b worker script)
  | disconnect worker => exact balances_quiet (active?_disconnect b worker)
  | openChannel | modifyChannel => exact balances_quiet rfl

theorem balances_operateAll (h : Steady σ) (cfg : CaptureConfig) (b : Bridge)
    (xs : List (Operation σ)) :
    Balances b.isActive (operateAll cfg b xs).2 (operateAll cfg b xs).1.isActive := by
  induction xs generalizing b with
  | nil => exact balances_nil b.isActive
  | cons x xs ih => exact (balances_operate h cfg b x).append (ih (operate cfg b x).1)

/-- Whatever is done to a bridge, and whichever calls fail, its engine has been started once
more than it was stopped while a capture is active, and as often as it was stopped while none
is, and the signal is set exactly while one is active if it could always be set and reset.

A start that fails leaves nothing active, and a start while the reader reads makes no call.  A
start after the reader has exited takes the three steps of one teardown and then sets the
signal.  When that fails nothing else is done, and otherwise one reader is attached.  A stop of
a capture stops the engine, tells the reader to stop, shuts the connection down and resets the
signal, each once whatever they come to, and leaves nothing active also when the reader does
not exit in time. -/
theorem engine_and_signal_balanced (h : Steady σ) (cfg : CaptureConfig)
    (xs : List (Operation σ)) (device channel : Nat) (host : σ) :
    let b := (operateAll cfg empty xs).1
    let notes := (operateAll cfg empty xs).2
    let started := b.start cfg device channel (Noted.of host)
    let stopped := b.stop cfg (Noted.of host)
    starts notes = stops notes + b.isActive.toNat ∧
      (SignalWorks notes → armed false notes = b.isActive) ∧
      (∀ f, started.1 = .failed f → started.2.1.isActive = false) ∧
      (b.isRunning = true → started.2.1 = b ∧ started.2.2.notes = []) ∧
      (b.isActive = true → b.isRunning = false → ∃ teardown launch,
        started.2.2.notes = teardown ++ launch ∧
          teardown.map Note.request = [.stop, .shutdown, .reset] ∧
          Launched device started.1.isDone launch) ∧
      ∀ active, b.active? = some active → stopped.2.1.isActive = false ∧
        stopped.2.2.notes.map Note.request =
          [.stop, .shutdown, .reset] ++ (if b.isRunning then [.join] else []) ∧
        (stopped.2.1 = b.told active.worker ∨
          stopped.2.1 = (b.told active.worker).disconnect active.worker) := by
  intro b notes started stopped
  have hbalance : Balances false notes b.isActive := balances_operateAll h cfg empty xs
  refine ⟨hbalance.engine, hbalance.signal, ?_, ?_, ?_, ?_⟩
  · intro f hf
    have hr : b.isRunning = false := by
      rw [← Bool.not_eq_true]
      intro hr
      have hdone : started = (.done (), b, Noted.of host) :=
        start_of_isRunning cfg device channel _ hr
      rw [hdone] at hf
      cases hf
    have ha : started.2.1.isActive = started.1.isDone := isActive_start hr cfg device channel _
    rw [ha, hf]
    rfl
  · intro hr
    have hdone : started = (.done (), b, Noted.of host) :=
      start_of_isRunning cfg device channel _ hr
    rw [hdone]
    exact ⟨rfl, rfl⟩
  · intro ha hr
    obtain ⟨active, hb⟩ := Option.isSome_iff_exists.1 ha
    obtain ⟨_, hnotes, teardown, launch, rfl, htorn, hlaunched⟩ :=
      (comes_start_of_exited h hb hr cfg device channel (Noted.of host)).exists_notes
    exact ⟨teardown, launch, hnotes, htorn.requests, hlaunched⟩
  · intro active hb
    obtain ⟨_, hnotes, htorn⟩ := (comes_stop h hb cfg (Noted.of host)).exists_notes
    have hr : b.isRunning = b.isReading active.worker := by rw [isRunning, hb]
    refine ⟨isActive_stop b cfg _, ?_, bridge_stop_eq h hb cfg _⟩
    change stopped.2.2.notes = _ at hnotes
    rw [hnotes, hr]
    exact htorn.requests

end Run

/-! ## A host that fails as it is told -/

/-- A host at which some calls fail. -/
structure Refusing where
  requests : List Request

namespace Refusing

/-- The answer of a call that works. -/
def answer {α : Type} : HostCall α → α
  | .devices _ => []
  | .join _ => true
  | .set | .reset | .start _ | .select _ | .stop | .close | .connect _ _ | .share | .shutdown => ()

instance : CaptureHost Refusing where
  perform call s :=
    (if Request.of call ∈ s.requests then .failed .closed else .done (answer call), s)

theorem steady : Steady Refusing := by
  intro α call s message
  change (if Request.of call ∈ s.requests then Outcome.failed .closed
    else Outcome.done (answer call)) ≠ _
  split <;> exact nofun

end Refusing

/-- A capture is started and its reader exits. -/
def abandoned : List (Operation Refusing) :=
  [⟨.openChannel 1 1, ⟨[]⟩⟩, ⟨.start 0 0, ⟨[]⟩⟩, ⟨.disconnect 0, ⟨[]⟩⟩]

/-- The next capture cannot select its device, and the one after that is stopped while the
engine does not listen. -/
theorem engine_and_signal_balanced_abandoned :
    let b := (operateAll default empty abandoned).1
    let refused := b.start default 1 0 (Noted.of (⟨[.select 1]⟩ : Refusing))
    let later := abandoned ++ [⟨.start 1 0, ⟨[.select 1]⟩⟩, ⟨.start 2 0, ⟨[]⟩⟩]
    let c := (operateAll default empty later).1
    let stopped := c.stop default (Noted.of (⟨[.stop, .shutdown]⟩ : Refusing))
    refused.2.1.isActive = false ∧
      (∃ teardown launch, refused.2.2.notes = teardown ++ launch ∧
        teardown.map Note.request = [.stop, .shutdown, .reset] ∧ Launched 1 false launch) ∧
      starts (operateAll default empty later).2 = stops (operateAll default empty later).2 + 1 ∧
      armed false (operateAll default empty later).2 = true ∧
      stopped.2.1.isActive = false ∧
      stopped.2.2.notes.map Note.request = [.stop, .shutdown, .reset, .join] := by
  intro b refused later c stopped
  obtain ⟨-, -, hfailed, -, hrestart, -⟩ :=
    engine_and_signal_balanced Refusing.steady default abandoned 1 0 ⟨[.select 1]⟩
  obtain ⟨hengine, hsignal, -, -, -, hstop⟩ :=
    engine_and_signal_balanced Refusing.steady default later 1 0 ⟨[.stop, .shutdown]⟩
  obtain ⟨hnone, hcalls, -⟩ := hstop ⟨2, 1⟩ (by decide)
  exact ⟨hfailed .closed (by decide), hrestart (by decide) (by decide), hengine,
    hsignal (by decide), hnone, hcalls⟩

/-- When the signal cannot be set, the teardown is not followed by another attach. -/
theorem restart_without_attach :
    let b := (operateAll default empty abandoned).1
    let notes := (b.start default 1 0 (Noted.of (⟨[.set]⟩ : Refusing))).2.2.notes
    b.isActive = true ∧ b.isRunning = false ∧
      ¬ ∃ before attach after worked, notes = before ++ attach ++ after ∧
        Attached 1 worked attach := by
  intro b notes
  refine ⟨by decide, by decide, ?_⟩
  rintro ⟨before, attach, after, worked, hnotes, hattached⟩
  obtain ⟨w, hw⟩ := hattached.exists_mem
  have hmem : (⟨.start 1, w⟩ : Note) ∈ notes := by
    rw [hnotes]
    exact List.mem_append_left after (List.mem_append_right before hw)
  have hfour : notes =
      [⟨.stop, true⟩, ⟨.shutdown, true⟩, ⟨.reset, true⟩, ⟨.set, false⟩] := by decide
  rw [hfour] at hmem
  simp at hmem

end PacketMeter.Capture.Bridge
