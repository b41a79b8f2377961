import PacketMeter.Proofs.Capture.Activity

/-!
# The calls that a bridge makes

A host can be watched: the calls to it are noted in their order, each with whether it worked.
What stands in the notes of an operation is said here for every way through it.

A call may fail, and then it gives a failure.  Hosts whose calls may also crash are left out,
as nothing is undone after a crash.
-/

namespace PacketMeter.Capture.Bridge

/-- A call without its answer. -/
inductive Request where
  | set
  | reset
  | devices
  | start (device : Nat)
  | select (device : Nat)
  | stop
  | close
  | connect
  | share
  | shutdown
  | join
  deriving DecidableEq, Repr, Inhabited

def Request.of {α : Type} : HostCall α → Request
  | .set => .set
  | .reset => .reset
  | .devices _ => .devices
  | .start device => .start device
  | .select device => .select device
  | .stop => .stop
  | .close => .close
  | .connect _ _ => .connect
  | .share => .share
  | .shutdown => .shutdown
  | .join _ => .join

/-- A call that was made, and whether it worked. -/
structure Note where
  request : Request
  worked : Bool
  deriving DecidableEq, Repr, Inhabited

/-- A host with the calls that were made to it. -/
structure Noted (σ : Type) where
  host : σ
  notes : List Note

/-- A host of which no calls have been noted. -/
def Noted.of {σ : Type} (host : σ) : Noted σ := ⟨host, []⟩

variable {σ : Type}

instance [CaptureHost σ] : CaptureHost (Noted σ) where
  perform call s :=
    let (outcome, host) := perform call s.host
    (outcome, ⟨host, s.notes ++ [⟨.of call, outcome.isDone⟩]⟩)

/-- No call crashes. -/
def Steady (σ : Type) [CaptureHost σ] : Prop :=
  ∀ {α : Type} (call : HostCall α) (s : σ) (message : String),
    (perform call s).1 ≠ .crashed message

/-- What comes of some calls that are made in a state: they work or fail, and the notes that
are added are as `P` says. -/
inductive Comes (s : Noted σ) (P : Bool → List Note → Prop) : Outcome Unit × Noted σ → Prop where
  | done {s' : Noted σ} (notes : List Note) (hnotes : s'.notes = s.notes ++ notes)
      (h : P true notes) : Comes s P (.done (), s')
  | failed {s' : Noted σ} (f : Failure) (notes : List Note)
      (hnotes : s'.notes = s.notes ++ notes) (h : P false notes) : Comes s P (.failed f, s')

variable {s s' : Noted σ} {P : Bool → List Note → Prop}

theorem comes_done (h : P true []) : Comes s P (.done (), s) :=
  .done [] (List.append_nil _).symm h

theorem comes_failed (f : Failure) (h : P false []) : Comes s P (.failed f, s) :=
  .failed f [] (List.append_nil _).symm h

/-- Some calls have been made before. -/
theorem Comes.prepend {before : List Note} {o : Outcome Unit × Noted σ}
    (hs : s'.notes = s.notes ++ before)
    (h : Comes s' (fun worked notes => P worked (before ++ notes)) o) : Comes s P o := by
  cases h with
  | done notes hnotes h =>
      rw [hs, List.append_assoc] at hnotes
      exact .done _ hnotes h
  | failed f notes hnotes h =>
      rw [hs, List.append_assoc] at hnotes
      exact .failed f _ hnotes h

theorem Comes.imp {Q : Bool → List Note → Prop} {o : Outcome Unit × Noted σ} (h : Comes s P o)
    (hPQ : ∀ worked notes, P worked notes → Q worked notes) : Comes s Q o := by
  cases h with
  | done notes hnotes h => exact .done notes hnotes (hPQ _ _ h)
  | failed f notes hnotes h => exact .failed f notes hnotes (hPQ _ _ h)

/-- The notes of calls that come to an outcome, by whether they worked. -/
theorem Comes.exists_notes {o : Outcome Unit × Noted σ} (h : Comes s P o) :
    ∃ notes, o.2.notes = s.notes ++ notes ∧ P o.1.isDone notes := by
  cases h with
  | done notes hnotes h => exact ⟨notes, hnotes, h⟩
  | failed f notes hnotes h => exact ⟨notes, hnotes, h⟩

section Host

variable [CaptureHost σ]

/-- A call is noted, and works or fails. -/
theorem perform_cases (h : Steady σ) {α : Type} (call : HostCall α) (s : Noted σ) :
    (∃ a s', perform call s = (.done a, s') ∧ s'.notes = s.notes ++ [⟨.of call, true⟩]) ∨
      ∃ f s', perform call s = (.failed f, s') ∧ s'.notes = s.notes ++ [⟨.of call, false⟩] := by
  have hs := h call s.host
  have he : perform call s = ((perform call s.host).1, ⟨(perform call s.host).2,
    s.notes ++ [⟨.of call, (perform call s.host).1.isDone⟩]⟩) := rfl
  rw [he]
  generalize (perform call s.host).1 = outcome at hs
  cases outcome with
  | done a => exact .inl ⟨a, _, rfl, rfl⟩
  | failed f => exact .inr ⟨f, _, rfl, rfl⟩
  | crashed message => exact absurd rfl (hs message)

/-- The note of a call of which the outcome does not matter. -/
theorem exists_notes_perform {α : Type} (call : HostCall α) (s : Noted σ) :
    ∃ worked, (perform call s).2.notes = s.notes ++ [⟨.of call, worked⟩] :=
  ⟨_, rfl⟩

/-! ## Starting -/

/-- The calls that attach a reader, and whether they worked.  When one fails after the engine
was started, the connection is shut down if there is one, and the engine is stopped. -/
inductive Attached (device : Nat) : Bool → List Note → Prop where
  | notStarted : Attached device false [⟨.start device, false⟩]
  | notConnected (stopped : Bool) : Attached device false
      [⟨.start device, true⟩, ⟨.connect, false⟩, ⟨.stop, stopped⟩]
  | notSelected (shut stopped : Bool) : Attached device false
      [⟨.start device, true⟩, ⟨.connect, true⟩, ⟨.select device, false⟩, ⟨.shutdown, shut⟩,
        ⟨.stop, stopped⟩]
  | notShared (shut stopped : Bool) : Attached device false
      [⟨.start device, true⟩, ⟨.connect, true⟩, ⟨.select device, true⟩, ⟨.share, false⟩,
        ⟨.shutdown, shut⟩, ⟨.stop, stopped⟩]
  | reading : Attached device true
      [⟨.start device, true⟩, ⟨.connect, true⟩, ⟨.select device, true⟩, ⟨.share, true⟩]

/-- The calls that start a capture, and whether they worked.  The signal is set, a reader is
attached, and the signal is reset when that fails. -/
inductive Launched (device : Nat) : Bool → List Note → Prop where
  | notArmed : Launched device false [⟨.set, false⟩]
  | undone (attach : List Note) (h : Attached device false attach) (reset : Bool) :
      Launched device false (⟨.set, true⟩ :: attach ++ [⟨.reset, reset⟩])
  | active (attach : List Note) (h : Attached device true attach) :
      Launched device true (⟨.set, true⟩ :: attach)

/-- Giving up a start comes to the failure that was its reason. -/
theorem abort_eq (h : Steady σ) (connected : Bool) (f : Failure) (s : Noted σ) :
    abort connected f s = (.failed f,
      (perform .stop (if connected then (perform .shutdown s).2 else s)).2) := by
  rw [abort]
  generalize (if connected then (perform .shutdown s).2 else s) = s₁
  obtain ⟨a, s₂, he, -⟩ | ⟨g, s₂, he, -⟩ := perform_cases h .stop s₁
  · rw [he]
  · rw [he]

theorem comes_abort (h : Steady σ) (f : Failure)
    (hP : ∀ shut stopped, P false [⟨.shutdown, shut⟩, ⟨.stop, stopped⟩]) :
    Comes s P (abort true f s) := by
  obtain ⟨shut, hshut⟩ := exists_notes_perform .shutdown s
  obtain ⟨stopped, hstopped⟩ := exists_notes_perform .stop (perform .shutdown s).2
  rw [abort_eq h, if_pos rfl]
  exact .prepend hshut (.prepend hstopped (comes_failed f (hP shut stopped)))

theorem comes_select (h : Steady σ) (device : Nat) (s : Noted σ) :
    Comes s (fun worked notes =>
      Attached device worked ([⟨.start device, true⟩, ⟨.connect, true⟩] ++ notes))
      (select device s) := by
  rw [select]
  obtain ⟨⟨⟩, s₁, he, hn⟩ | ⟨f, s₁, he, hn⟩ := perform_cases h (.select device) s
  · rw [he]
    refine .prepend hn ?_
    obtain ⟨⟨⟩, s₂, he', hn'⟩ | ⟨f, s₂, he', hn'⟩ := perform_cases h .share s₁
    · dsimp only
      rw [he']
      exact .prepend hn' (comes_done .reading)
    · dsimp only
      rw [he']
      exact .prepend hn' (comes_abort h f .notShared)
  · rw [he]
    exact .prepend hn (comes_abort h f .notSelected)

theorem comes_attach (h : Steady σ) (cfg : CaptureConfig) (device : Nat) (s : Noted σ) :
    Comes s (Attached device) (attach cfg device s) := by
  rw [attach]
  obtain ⟨⟨⟩, s₁, he, hn⟩ | ⟨f, s₁, he, hn⟩ := perform_cases h (.start device) s
  · rw [he]
    refine .prepend hn ?_
    obtain ⟨⟨⟩, s₂, he', hn'⟩ | ⟨f, s₂, he', hn'⟩ :=
      perform_cases h (.connect cfg.endpoint cfg.connectTimeout) s₁
    · dsimp only
      rw [he']
      exact .prepend hn' (comes_select h device s₂)
    · obtain ⟨stopped, hs⟩ := exists_notes_perform .stop s₂
      dsimp only
      rw [he']
      dsimp only
      rw [abort_eq h, if_neg Bool.false_ne_true]
      exact .prepend hn' (.prepend hs (comes_failed f (.notConnected stopped)))
  · rw [he]
    exact .prepend hn (comes_failed f .notStarted)

theorem comes_launch (h : Steady σ) (b : Bridge) (cfg : CaptureConfig) (device channel : Nat)
    (s : Noted σ) : Comes s (Launched device)
      ((b.launch cfg device channel s).1, (b.launch cfg device channel s).2.2) := by
  rw [launch]
  obtain ⟨⟨⟩, s₁, he, hn⟩ | ⟨f, s₁, he, hn⟩ := perform_cases h .set s
  · rw [he]
    refine .prepend hn ?_
    have hattach := comes_attach h cfg device s₁
    dsimp only
    generalize attach cfg device s₁ = o at hattach
    cases hattach with
    | done notes hnotes hattached => exact .done notes hnotes (.active notes hattached)
    | @failed s₂ f notes hnotes hattached =>
        refine .prepend hnotes ?_
        dsimp only
        obtain ⟨⟨⟩, s₃, he', hn'⟩ | ⟨g, s₃, he', hn'⟩ := perform_cases h .reset s₂
        · rw [he']
          exact .prepend hn' (comes_failed f (.undone notes hattached true))
        · rw [he']
          exact .prepend hn' (comes_failed f (.undone notes hattached false))
  · rw [he]
    exact .prepend hn (comes_failed f .notArmed)

/-! ## Stopping -/

/-- The calls that stop a capture, by whether its reader still reads: only then it is waited
for. -/
inductive TornDown : Bool → List Note → Prop where
  | exited (stopped shut reset : Bool) :
      TornDown false [⟨.stop, stopped⟩, ⟨.shutdown, shut⟩, ⟨.reset, reset⟩]
  | joined (stopped shut reset joined : Bool) : TornDown true
      [⟨.stop, stopped⟩, ⟨.shutdown, shut⟩, ⟨.reset, reset⟩, ⟨.join, joined⟩]

omit [CaptureHost σ] in
theorem isReading_tellToStop (b : Bridge) (worker worker' : Nat) :
    (b.tellToStop worker).isReading worker' = b.isReading worker' := by
  rw [isReading, isReading, tellToStop]
  dsimp only
  rw [List.getElem?_modify]
  cases b.workers[worker']? with
  | none => rfl
  | some w => by_cases he : worker = worker' <;> simp [he, Reader.tellToStop]

/-- The bridge whose capture is let go of, with its reader told to stop. -/
def told (b : Bridge) (worker : Nat) : Bridge := { b with active? := none }.tellToStop worker

/-- A stop comes to the wait for the reader, whatever its other steps come to. -/
theorem stop_eq (h : Steady σ) {b : Bridge} {active : Active} (hb : b.active? = some active)
    (cfg : CaptureConfig) (s : Noted σ) :
    b.stop cfg s = (b.told active.worker).join cfg active.worker
      (perform .reset (perform .shutdown (perform .stop s).2).2).2 := by
  rw [stop, hb]
  dsimp only
  obtain ⟨_, s₁, he, -⟩ | ⟨_, s₁, he, -⟩ := perform_cases h .stop s
  all_goals
    rw [he]
    dsimp only
    generalize (perform .shutdown s₁).2 = s₂
    obtain ⟨_, s₃, he', -⟩ | ⟨_, s₃, he', -⟩ := perform_cases h .reset s₂
    all_goals
      rw [he']
      rfl

/-- A reader is waited for only when it still reads. -/
theorem comes_join (h : Steady σ) {b : Bridge} {worker : Nat} (cfg : CaptureConfig)
    (hreads : b.isReading worker = true → ∀ worked joined, P worked [⟨.join, joined⟩])
    (hexited : b.isReading worker = false → P true []) :
    Comes s P ((b.join cfg worker s).1, (b.join cfg worker s).2.2) := by
  unfold join
  cases hr : b.isReading worker with
  | false =>
      rw [if_neg Bool.false_ne_true]
      exact comes_done (hexited hr)
  | true =>
      rw [if_pos rfl]
      obtain ⟨exited, s₁, he, hn⟩ | ⟨f, s₁, he, hn⟩ := perform_cases h (.join cfg.joinTimeout) s
      · rw [he]
        cases exited with
        | true => exact .prepend hn (comes_done (hreads hr true true))
        | false => exact .prepend hn (comes_failed _ (hreads hr false true))
      · rw [he]
        exact .prepend hn (comes_failed f (hreads hr false false))

/-- Every step of a stop is taken once. -/
theorem comes_stop (h : Steady σ) {b : Bridge} {active : Active} (hb : b.active? = some active)
    (cfg : CaptureConfig) (s : Noted σ) :
    Comes s (fun _ => TornDown (b.isReading active.worker))
      ((b.stop cfg s).1, (b.stop cfg s).2.2) := by
  obtain ⟨stopped, hstopped⟩ := exists_notes_perform .stop s
  obtain ⟨shut, hshut⟩ := exists_notes_perform .shutdown (perform .stop s).2
  obtain ⟨reset, hreset⟩ := exists_notes_perform .reset (perform .shutdown (perform .stop s).2).2
  have hreading : (b.told active.worker).isReading active.worker = b.isReading active.worker :=
    isReading_tellToStop _ _ _
  rw [stop_eq h hb, ← hreading]
  refine .prepend hstopped (.prepend hshut (.prepend hreset (comes_join h cfg ?_ ?_)))
  · intro hr _ joined
    rw [hr]
    exact .joined stopped shut reset joined
  · intro hr
    rw [hr]
    exact .exited stopped shut reset

/-- Only a reader that does not exit in time keeps its connection. -/
theorem bridge_stop_eq (h : Steady σ) {b : Bridge} {active : Active}
    (hb : b.active? = some active) (cfg : CaptureConfig) (s : Noted σ) :
    (b.stop cfg s).2.1 = b.told active.worker ∨
      (b.stop cfg s).2.1 = (b.told active.worker).disconnect active.worker := by
  rw [stop_eq h hb]
  unfold join
  split
  · split
    · exact .inl rfl
    · exact .inl rfl
    · exact .inr rfl
    · exact .inl rfl
  · exact .inl rfl

/-- A capture whose reader has exited is stopped before another one is started. -/
theorem comes_start_of_exited (h : Steady σ) {b : Bridge} {active : Active}
    (hb : b.active? = some active) (hr : b.isRunning = false) (cfg : CaptureConfig)
    (device channel : Nat) (s : Noted σ) :
    Comes s (fun worked notes => ∃ teardown launch, notes = teardown ++ launch ∧
        TornDown false teardown ∧ Launched device worked launch)
      ((b.start cfg device channel s).1, (b.start cfg device channel s).2.2) := by
  have hstop := comes_stop h hb cfg s
  -- The reader has exited, so the teardown does not wait for it.
  have hreading : b.isReading active.worker = false := by
    rw [isRunning, hb] at hr
    exact hr
  rw [hreading] at hstop
  rw [start, hr, if_neg Bool.false_ne_true]
  generalize b.stop cfg s = o at hstop ⊢
  obtain ⟨outcome, b', s'⟩ := o
  cases hstop with
  | done notes hnotes htorn =>
      refine .prepend hnotes ((comes_launch h b' cfg device channel s').imp ?_)
      intro worked launch hlaunched
      exact ⟨notes, launch, rfl, htorn, hlaunched⟩
  | failed f notes hnotes htorn =>
      refine .prepend hnotes ((comes_launch h _ cfg device channel s').imp ?_)
      intro worked launch hlaunched
      exact ⟨notes, launch, rfl, htorn, hlaunched⟩

end Host

end PacketMeter.Capture.Bridge
