import PacketMeter.Engine.Command

/-!
# Children of an engine

The children of an engine run until they exit, by themselves or killed, and an exited child is
left over until somebody has waited for it.  Children may exit before any call, and any spawning
and any line to a child may fail; asking for an exited child, killing and waiting always work.

An engine that has no child, or one that was waited for, has left nothing over.  That holds
between any two calls of its operations, so a new child is only ever spawned when there is no
other.
-/

namespace PacketMeter.Engine

/-! ## Processes whose course is given -/

/-- What happens at a call: the children that exit by themselves before it, the fault with which
it fails if it can fail, and whether the grace of a child that is waited for lasts. -/
structure Happening where
  exits : List Nat
  fault? : Option Fault
  graceLasts : Bool
  deriving Repr, Inhabited

/-- What comes of a call that can fail. -/
def Happening.verdict {α : Type} (h : Happening) (a : α) : Except Fault α :=
  match h.fault? with
  | some f => .error f
  | none => .ok a

/-- The children of a process by their numbers: those that run, those that nobody has waited for,
which are all that run and some that have exited, and those that were waited for.  `attempts`
counts the attempts to spawn a child, and `peak` is the greatest number of children at any time
that nobody had waited for. -/
structure Nursery where
  plan : Nat → Happening
  calls : Nat
  spawned : Nat
  attempts : Nat
  running : List Nat
  unwaited : List Nat
  waited : List Nat
  peak : Nat

namespace Nursery

/-- A process that has no child yet, with what is going to happen. -/
def make (plan : Nat → Happening) : Nursery := ⟨plan, 0, 0, 0, [], [], [], 0⟩

/-- The children at the next call, before it is answered. -/
def elapse (s : Nursery) : Nursery :=
  { s with
    calls := s.calls + 1
    running := s.running.filter fun k => k ∉ (s.plan s.calls).exits }

/-- The children with one more. -/
def bear (s : Nursery) : Nursery :=
  { s with
    spawned := s.spawned + 1
    running := s.running ++ [s.spawned]
    unwaited := s.unwaited ++ [s.spawned]
    peak := max s.peak (s.unwaited.length + 1) }

/-- The children after a signal that ends one. -/
def terminate (child : Nat) (s : Nursery) : Nursery :=
  { s with running := s.running.filter (· ≠ child) }

/-- The children after one has exited and was waited for. -/
def collect (child : Nat) (s : Nursery) : Nursery :=
  if child ∈ s.unwaited then
    { s.terminate child with
      unwaited := s.unwaited.filter (· ≠ child)
      waited := s.waited ++ [child] }
  else s

/-- Answers a call at which something happens. -/
def answer {α : Type} (h : Happening) (question : ProcessCall α) (s : Nursery) :
    Except Fault α × Nursery :=
  match question with
  | .run _ _ => (h.verdict (.code 0, []), s)
  | .spawn _ _ =>
    let s := { s with attempts := s.attempts + 1 }
    match h.verdict s.spawned with
    | .error f => (.error f, s)
    | .ok child => (.ok child, s.bear)
  | .hasExited child => if child ∈ s.running then (.ok false, s) else (.ok true, s.collect child)
  | .write _ _ => (h.verdict (), s)
  | .closeInput _ => (.ok (), s)
  | .graceLasts _ => (.ok h.graceLasts, s)
  | .kill child => (.ok (), s.terminate child)
  | .reap child => (.ok (), s.collect child)

instance : ProcessHost Nursery where
  ask question s := answer (s.plan s.calls) question s.elapse

/-! ## Calls that leave the children as they are -/

/-- Between two states no child was spawned or waited for; some may have exited. -/
structure Calm (s s' : Nursery) : Prop where
  attempts : s'.attempts = s.attempts
  unwaited : s'.unwaited = s.unwaited
  waited : s'.waited = s.waited
  peak : s'.peak = s.peak
  running : ∀ k ∈ s'.running, k ∈ s.running

theorem Calm.rfl {s : Nursery} : Calm s s := ⟨.refl _, .refl _, .refl _, .refl _, fun _ => id⟩

theorem Calm.trans {s s' s'' : Nursery} (h : Calm s s') (h' : Calm s' s'') : Calm s s'' where
  attempts := h'.attempts.trans h.attempts
  unwaited := h'.unwaited.trans h.unwaited
  waited := h'.waited.trans h.waited
  peak := h'.peak.trans h.peak
  running k hk := h.running k (h'.running k hk)

theorem calm_elapse (s : Nursery) : Calm s s.elapse :=
  ⟨rfl, rfl, rfl, rfl, fun _ hk => (List.mem_filter.1 hk).1⟩

theorem calm_terminate (child : Nat) (s : Nursery) : Calm s (s.terminate child) :=
  ⟨rfl, rfl, rfl, rfl, fun _ hk => (List.mem_filter.1 hk).1⟩

/-! ## What is known of the children of an engine -/

/-- The children that nobody has waited for are at most the one that an engine holds, if it holds
one, and the one that it holds was waited for otherwise.  There have never been two. -/
structure Keeps (child? : Option Nat) (s : Nursery) : Prop where
  unwaited : s.unwaited = [] ∨ ∃ k, child? = some k ∧ s.unwaited = [k]
  held : ∀ k, child? = some k → k ∈ s.unwaited ∨ k ∈ s.waited
  running : ∀ k ∈ s.running, k ∈ s.unwaited
  peak : s.peak ≤ 1

/-- No child is left over. -/
structure Idle (s : Nursery) : Prop where
  unwaited : s.unwaited = []
  running : s.running = []

/-- From one state to another an engine has let go of its child, which was waited for, and has
spawned no other one. -/
structure LetGo (child? : Option Nat) (s s' : Nursery) : Prop extends Idle s' where
  waited : ∀ k, child? = some k → k ∈ s'.waited
  attempts : s'.attempts = s.attempts
  peak : s'.peak = s.peak

theorem keeps_make (plan : Nat → Happening) : Keeps none (make plan) where
  unwaited := .inl rfl
  held _ h := absurd h (by simp)
  running _ h := absurd h (by simp [make])
  peak := by simp [make]

theorem Keeps.calm {child? : Option Nat} {s s' : Nursery} (h : Keeps child? s) (hc : Calm s s') :
    Keeps child? s' where
  unwaited := by
    rw [hc.unwaited]
    exact h.unwaited
  held := by
    rw [hc.unwaited, hc.waited]
    exact h.held
  running k hk := by
    rw [hc.unwaited]
    exact h.running k (hc.running k hk)
  peak := by
    rw [hc.peak]
    exact h.peak

theorem LetGo.of_calm {child? : Option Nat} {s s' s'' : Nursery} (hc : Calm s s')
    (h : LetGo child? s' s'') : LetGo child? s s'' where
  toIdle := h.toIdle
  waited := h.waited
  attempts := h.attempts.trans hc.attempts
  peak := h.peak.trans hc.peak

/-- An engine that has let go of its child holds none. -/
theorem LetGo.keeps_none {child? : Option Nat} {s s' : Nursery} (hl : LetGo child? s s')
    (h : Keeps child? s) : Keeps none s' where
  unwaited := .inl hl.unwaited
  held k hk := absurd hk (by simp)
  running k hk := absurd (hl.running ▸ hk) List.not_mem_nil
  peak := by
    rw [hl.peak]
    exact h.peak

theorem Keeps.idle {child? : Option Nat} {s : Nursery} (h : Keeps child? s)
    (hu : s.unwaited = []) : Idle s where
  unwaited := hu
  running := List.eq_nil_iff_forall_not_mem.2 fun k hk => by
    have hmem := h.running k hk
    rw [hu] at hmem
    exact absurd hmem (by simp)

/-- An engine without a child has left none over. -/
theorem Keeps.letGo_of_none {s : Nursery} (h : Keeps none s) : LetGo none s s := by
  obtain hnone | ⟨k, hk, -⟩ := h.unwaited
  · exact { h.idle hnone with waited := fun _ hk => absurd hk (by simp), attempts := rfl, peak := rfl }
  · exact absurd hk (by simp)

/-- Once its child is waited for, an engine has left none over. -/
theorem Keeps.letGo_collect {k : Nat} {s : Nursery} (h : Keeps (some k) s) :
    LetGo (some k) s (s.collect k) := by
  obtain hnone | ⟨k', hk, hone⟩ := h.unwaited
  · have hwaited : k ∈ s.waited := by
      refine (h.held k rfl).resolve_left ?_
      rw [hnone]
      exact List.not_mem_nil
    have hsame : s.collect k = s := if_neg (by rw [hnone]; exact List.not_mem_nil)
    rw [hsame]
    refine { h.idle hnone with waited := ?_, attempts := rfl, peak := rfl }
    rintro _ ⟨⟩
    exact hwaited
  · obtain rfl := Option.some.inj hk
    have hcollect : s.collect k = { s.terminate k with
        unwaited := s.unwaited.filter (· ≠ k), waited := s.waited ++ [k] } :=
      if_pos (by rw [hone]; exact List.mem_singleton_self k)
    rw [hcollect]
    refine { unwaited := ?_, running := ?_, waited := ?_, attempts := rfl, peak := rfl }
    · simp [hone]
    · refine List.filter_eq_nil_iff.2 fun k' hk' => ?_
      have hmem := h.running k' hk'
      rw [hone, List.mem_singleton] at hmem
      simp [hmem]
    · rintro _ ⟨⟩
      exact List.mem_append_right _ (List.mem_singleton_self k)

/-- The first child of an idle process is the one that its engine holds. -/
theorem Idle.keeps_bear {s : Nursery} (h : Idle s) (hp : s.peak ≤ 1) :
    Keeps (some s.spawned) s.bear where
  unwaited := .inr ⟨_, rfl, by rw [bear, h.unwaited, List.nil_append]⟩
  held := by
    rintro _ ⟨⟩
    exact .inl (List.mem_append_right _ (List.mem_singleton_self _))
  running k hk := by
    rw [bear, h.running, List.nil_append] at hk
    exact List.mem_append_right _ hk
  peak := by
    rw [bear, h.unwaited]
    exact Nat.max_le.2 ⟨hp, Nat.le_refl 1⟩

/-! ## The answers to single calls -/

theorem ask_hasExited (child : Nat) (s : Nursery) :
    ProcessHost.ask (.hasExited child) s =
      if child ∈ s.elapse.running then (.ok false, s.elapse)
      else (.ok true, s.elapse.collect child) := rfl

theorem ask_graceLasts (child : Nat) (s : Nursery) :
    ProcessHost.ask (.graceLasts child) s = (.ok (s.plan s.calls).graceLasts, s.elapse) := rfl

theorem verdict_cases {α : Type} (h : Happening) (a : α) :
    (∃ f, h.verdict a = .error f) ∨ h.verdict a = .ok a := by
  unfold Happening.verdict
  cases h.fault? with
  | some f => exact .inl ⟨f, rfl⟩
  | none => exact .inr rfl

theorem ask_write_cases (child : Nat) (line : String) (s : Nursery) :
    (∃ f, ProcessHost.ask (.write child line) s = (.error f, s.elapse)) ∨
      ProcessHost.ask (.write child line) s = (.ok (), s.elapse) := by
  change (∃ f, ((s.plan s.calls).verdict (), s.elapse) = _) ∨
    ((s.plan s.calls).verdict (), s.elapse) = _
  obtain ⟨f, hf⟩ | hok := verdict_cases (s.plan s.calls) ()
  · exact .inl ⟨f, by rw [hf]⟩
  · exact .inr (by rw [hok])

/-- Spawning is tried, and there is a fault or a new child. -/
theorem ask_spawn_cases (program : String) (args : List String) (s : Nursery) :
    (∃ f, ProcessHost.ask (.spawn program args) s =
        (.error f, { s.elapse with attempts := s.attempts + 1 })) ∨
      ProcessHost.ask (.spawn program args) s =
        (.ok s.spawned, { s.elapse with attempts := s.attempts + 1 }.bear) := by
  change (∃ f, answer _ (.spawn program args) s.elapse = _) ∨
    answer _ (.spawn program args) s.elapse = _
  unfold answer
  obtain ⟨f, hf⟩ | hok := verdict_cases (s.plan s.calls) s.spawned
  · exact .inl ⟨f, by simp only [elapse, hf]⟩
  · exact .inr (by simp only [elapse, hok])

end Nursery

/-! ## The operations of an engine -/

namespace Command

open Nursery

theorem letGo_kill {k : Nat} {s : Nursery} (h : Keeps (some k) s) :
    (kill k s).1 = .ok () ∧ LetGo (some k) s (kill k s).2 := by
  have hkill : kill k s = (.ok (), (s.elapse.terminate k).elapse.collect k) := rfl
  have hcalm : Calm s (s.elapse.terminate k).elapse :=
    (calm_elapse s).trans ((calm_terminate k _).trans (calm_elapse _))
  rw [hkill]
  exact ⟨rfl, .of_calm hcalm (h.calm hcalm).letGo_collect⟩

/-- A child that exits in time is waited for by being asked, and any other one is killed. -/
theorem letGo_awaitRounds {k : Nat} (n : Nat) {s : Nursery} (h : Keeps (some k) s) :
    (awaitRounds k n s).1 = .ok () ∧ LetGo (some k) s (awaitRounds k n s).2 := by
  induction n generalizing s with
  | zero => exact letGo_kill h
  | succ n ih =>
      have hcalm := calm_elapse s
      have hk := h.calm hcalm
      rw [awaitRounds, ask_graceLasts]
      cases (s.plan s.calls).graceLasts with
      | false => exact (letGo_kill hk).imp_right (.of_calm hcalm)
      | true =>
          have hcalm' := hcalm.trans (calm_elapse s.elapse)
          dsimp only
          by_cases hruns : k ∈ s.elapse.elapse.running
          · rw [ask_hasExited, if_pos hruns]
            exact (ih (h.calm hcalm')).imp_right (.of_calm hcalm')
          · rw [ask_hasExited, if_neg hruns]
            exact ⟨rfl, .of_calm hcalm' (h.calm hcalm').letGo_collect⟩

theorem letGo_await {k : Nat} {s : Nursery} (h : Keeps (some k) s) :
    (await k s).1 = .ok () ∧ LetGo (some k) s (await k s).2 :=
  (letGo_awaitRounds rounds (h.calm (calm_elapse s))).imp_right (.of_calm (calm_elapse s))

/-- Closing works, and leaves no child over. -/
theorem letGo_close {c : Command} {s : Nursery} (h : Keeps c.child? s) :
    (c.close s).1 = .ok () ∧ LetGo c.child? s (c.close s).2.2 := by
  unfold close
  cases hc : c.child? with
  | none =>
      rw [hc] at h
      exact ⟨rfl, h.letGo_of_none⟩
  | some k =>
      rw [hc] at h
      exact letGo_await h

theorem calm_send (c : Command) (line : String) (s : Nursery) : Calm s (c.send line s).2 := by
  unfold send
  cases c.child? with
  | none => exact .rfl
  | some k =>
      dsimp only
      obtain ⟨f, hf⟩ | hok := ask_write_cases k line s
      · rw [hf]
        exact calm_elapse s
      · rw [hok]
        exact calm_elapse s

/-- Stopping says what came of the line, as letting go of the child works. -/
theorem letGo_stop {c : Command} {s : Nursery} (h : Keeps c.child? s) :
    (c.stop s).1 = (c.send "stop" s).1 ∧ LetGo c.child? s (c.stop s).2.2 := by
  have hcalm := calm_send c "stop" s
  obtain ⟨hok, hlet⟩ := letGo_close (h.calm hcalm)
  unfold stop
  dsimp only
  generalize c.close (c.send "stop" s).2 = o at hok hlet
  obtain ⟨result, c', s'⟩ := o
  obtain rfl : result = .ok () := hok
  exact ⟨rfl, .of_calm hcalm hlet⟩

/-- A child is held that still runs when it is asked. -/
def IsLive (c : Command) (s : Nursery) : Prop :=
  ∃ k, c.child? = some k ∧ k ∈ s.elapse.running

/-- What comes of spawning a child while none is left over: a fault, after which there is none
still, or the one child. -/
inductive Spawned (c : Command) (s : Nursery) : Except Failure Unit × Command × Nursery → Prop where
  | refused (f : Fault) (s' : Nursery) (attempts : s'.attempts = s.attempts + 1) (idle : Idle s')
      (keeps : Keeps c.child? s') :
      Spawned c s (.error (.engineUnavailable (c.program ++ ": " ++ f.message)), c, s')
  | born (k : Nat) (s' : Nursery) (attempts : s'.attempts = s.attempts + 1)
      (running : s'.running = [k]) (keeps : Keeps (some k) s') :
      Spawned c s (.ok (), { c with child? := some k }, s')

theorem spawned_spawn {c : Command} {s s' : Nursery} (h : LetGo c.child? s s')
    (hp : s.peak ≤ 1) (device : Nat) : Spawned c s (c.spawn device s') := by
  have hcalm := calm_elapse s'
  have hidle : Idle { s'.elapse with attempts := s'.attempts + 1 } := by
    refine ⟨h.unwaited, ?_⟩
    change s'.running.filter _ = []
    rw [h.running, List.filter_nil]
  have hpeak : s'.peak ≤ 1 := by
    rw [h.peak]
    exact hp
  have hattempts : s'.attempts + 1 = s.attempts + 1 := congrArg (· + 1) h.attempts
  unfold spawn
  obtain ⟨f, hf⟩ | hok := ask_spawn_cases c.program (c.args ++ ["capture", toString device]) s'
  · rw [hf]
    refine .refused f _ hattempts hidle ?_
    exact ⟨.inl hidle.unwaited, fun k hk => .inr (h.waited k hk),
      fun k hk => absurd (hidle.running ▸ hk) List.not_mem_nil, hpeak⟩
  · rw [hok]
    refine .born s'.spawned _ hattempts ?_ (hidle.keeps_bear hpeak)
    change s'.running.filter _ ++ [s'.spawned] = _
    rw [h.running]
    rfl

/-- Starting finds a child that runs, or spawns one. -/
theorem start_cases {c : Command} {s : Nursery} (h : Keeps c.child? s) (device : Nat) :
    (IsLive c s ∧ c.start device s = (.ok (), c, s.elapse)) ∨
      (¬ IsLive c s ∧ Spawned c s (c.start device s)) := by
  unfold start
  cases hc : c.child? with
  | none =>
      have hl : LetGo c.child? s s := by
        rw [hc] at h ⊢
        exact h.letGo_of_none
      refine .inr ⟨?_, spawned_spawn hl h.peak device⟩
      rintro ⟨k, hk, -⟩
      rw [hc] at hk
      cases hk
  | some k =>
      have hcalm := calm_elapse s
      dsimp only
      by_cases hruns : k ∈ s.elapse.running
      · rw [ask_hasExited, if_pos hruns]
        exact .inl ⟨⟨k, hc, hruns⟩, rfl⟩
      · have hl : LetGo c.child? s (s.elapse.collect k) := by
          rw [hc] at h ⊢
          exact .of_calm hcalm (h.calm hcalm).letGo_collect
        rw [ask_hasExited, if_neg hruns]
        refine .inr ⟨?_, spawned_spawn hl h.peak device⟩
        rintro ⟨k', hk', hruns'⟩
        obtain rfl := Option.some.inj (hc.symm.trans hk')
        exact hruns hruns'

/-! ## Runs -/

/-- An operation of an engine that may change its child. -/
inductive Use where
  | start (device : Nat)
  | select (device : Nat)
  | stop
  | close
  deriving Repr, DecidableEq, Inhabited

section Host

variable {σ : Type} [ProcessHost σ]

/-- An engine and its host after an operation. -/
def use (c : Command) (s : σ) : Use → Command × σ
  | .start device => (c.start device s).2
  | .select device => (c, (c.select device s).2)
  | .stop => (c.stop s).2
  | .close => (c.close s).2

/-- An engine and its host after several operations. -/
def after (c : Command) (s : σ) : List Use → Command × σ
  | [] => (c, s)
  | x :: xs => after (c.use s x).1 (c.use s x).2 xs

end Host

theorem keeps_use {c : Command} {s : Nursery} (h : Keeps c.child? s) (x : Use) :
    Keeps (c.use s x).1.child? (c.use s x).2 := by
  cases x with
  | start device =>
      change Keeps (c.start device s).2.1.child? (c.start device s).2.2
      obtain ⟨-, hstart⟩ | ⟨-, hspawned⟩ := start_cases h device
      · rw [hstart]
        exact h.calm (calm_elapse s)
      · generalize c.start device s = o at hspawned
        cases hspawned with
        | refused f s' attempts idle keeps => exact keeps
        | born k s' attempts running keeps => exact keeps
  | select device => exact h.calm (calm_send c _ s)
  | stop =>
      change Keeps (c.stop s).2.1.child? (c.stop s).2.2
      rw [child?_stop]
      exact (letGo_stop h).2.keeps_none h
  | close =>
      change Keeps (c.close s).2.1.child? (c.close s).2.2
      rw [child?_close]
      exact (letGo_close h).2.keeps_none h

theorem keeps_after {c : Command} {s : Nursery} (h : Keeps c.child? s) (xs : List Use) :
    Keeps (c.after s xs).1.child? (c.after s xs).2 := by
  induction xs generalizing c s with
  | nil => exact h
  | cons x xs ih => exact ih (keeps_use h x)

/-- An engine that holds no child has none to write to. -/
theorem send_of_none {c : Command} (h : c.child? = none) (line : String) (s : Nursery) :
    c.send line s = (.error notRunning, s) := by
  rw [send, h]

theorem close_of_none {c : Command} (h : c.child? = none) (s : Nursery) :
    c.close s = (.ok (), c, s) := by
  rw [close, h]

/-- Whatever is done with an engine, whenever its children exit, and whichever spawning and
whichever lines fail, there has never been more than one child that nobody had waited for, and it
is the one that the engine holds.

A start spawns exactly when the engine holds no child that runs, and when it fails no child is
left.  Stopping and closing let go of the child, which was waited for, and stopping does so also
when its line cannot be written.  Without a child there is nothing to select for or to stop, and
closing always works and changes nothing the second time. -/
theorem at_most_one_child (plan : Nat → Happening) (program : String) (args : List String)
    (xs : List Use) (device : Nat) :
    let c := ((make program args).after (Nursery.make plan) xs).1
    let s := ((make program args).after (Nursery.make plan) xs).2
    let started := c.start device s
    let selected := c.select device s
    let stopped := c.stop s
    let closed := c.close s
    (s.peak ≤ 1 ∧ (s.unwaited = [] ∨ ∃ k, c.child? = some k ∧ s.unwaited = [k])) ∧
      (IsLive c s → started.1 = .ok () ∧ started.2.2.attempts = s.attempts) ∧
      (¬ IsLive c s → started.2.2.attempts = s.attempts + 1 ∧
        ((started.1 = .ok () ∧ ∃ k, started.2.1.child? = some k ∧ started.2.2.running = [k]) ∨
          ((∃ reason, started.1 = .error (.engineUnavailable reason)) ∧
            started.2.2.running = [] ∧ started.2.2.unwaited = []))) ∧
      (stopped.1 = (c.send "stop" s).1 ∧ stopped.2.1.child? = none ∧
        LetGo c.child? s stopped.2.2) ∧
      (closed.2.1.child? = none ∧ LetGo c.child? s closed.2.2) ∧
      (c.child? = none →
        selected = (.error notRunning, s) ∧ stopped = (.error notRunning, c, s)) ∧
      selected.2.attempts = s.attempts ∧
      closed.1 = .ok () ∧
      closed.2.1.close closed.2.2 = (.ok (), closed.2.1, closed.2.2) := by
  intro c s started selected stopped closed
  have h : Keeps c.child? s := keeps_after (keeps_make plan) xs
  refine ⟨⟨h.peak, h.unwaited⟩, ?_, ?_, ?_, ?_, ?_, ?_, ?_, ?_⟩
  · intro hlive
    obtain ⟨-, hstart⟩ | ⟨hdead, -⟩ := start_cases h device
    · have hsame : started = (.ok (), c, s.elapse) := hstart
      rw [hsame]
      exact ⟨rfl, (calm_elapse s).attempts⟩
    · exact absurd hlive hdead
  · intro hdead
    obtain ⟨hlive, -⟩ | ⟨-, hspawned⟩ := start_cases h device
    · exact absurd hlive hdead
    · change Spawned c s started at hspawned
      generalize started = o at hspawned
      cases hspawned with
      | refused f s' attempts idle keeps =>
          exact ⟨attempts, .inr ⟨⟨_, rfl⟩, idle.running, idle.unwaited⟩⟩
      | born k s' attempts running keeps =>
          exact ⟨attempts, .inl ⟨rfl, k, rfl, running⟩⟩
  · exact ⟨(letGo_stop h).1, child?_stop c s, (letGo_stop h).2⟩
  · exact ⟨child?_close c s, (letGo_close h).2⟩
  · intro hnone
    refine ⟨send_of_none hnone _ s, ?_⟩
    change c.stop s = _
    rw [stop, send_of_none hnone]
    dsimp only
    rw [close_of_none hnone]
  · exact (calm_send c _ s).attempts
  · exact (letGo_close h).1
  · exact close_of_none (child?_close c s) _

/-- The child that is spawned first exits before it is asked for, and the next one cannot be
spawned. -/
def shortLived (call : Nat) : Happening :=
  ⟨if call = 1 then [0] else [], if call = 2 then some (.system 11) else none, true⟩

/-- A child that runs is kept, one that has exited is replaced or not, and without one there is
nothing to stop. -/
theorem at_most_one_child_short_lived :
    ((make "engine" []).start 0 (Nursery.make shortLived)).2.2.running = [0] ∧
      (((make "engine" []).after (Nursery.make fun _ => ⟨[], none, true⟩) [.start 0]).1.start 1
        ((make "engine" []).after (Nursery.make fun _ => ⟨[], none, true⟩)
          [.start 0]).2).2.2.attempts = 1 ∧
      (((make "engine" []).after (Nursery.make shortLived) [.start 0]).1.start 1
        ((make "engine" []).after (Nursery.make shortLived) [.start 0]).2).2.2.attempts = 2 ∧
      (make "engine" []).stop (Nursery.make shortLived) =
        (.error notRunning, make "engine" [], Nursery.make shortLived) := by
  refine ⟨rfl, ?_, ?_, ?_⟩
  · exact ((at_most_one_child (fun _ => ⟨[], none, true⟩) "engine" [] [.start 0] 1).2.1
      ⟨0, rfl, by decide⟩).2
  · refine ((at_most_one_child shortLived "engine" [] [.start 0] 1).2.2.1 ?_).1
    rintro ⟨k, hk, hruns⟩
    obtain rfl : 0 = k := Option.some.inj hk
    exact absurd hruns (by decide)
  · exact ((at_most_one_child shortLived "engine" [] [] 1).2.2.2.2.2.1 rfl).2

end Command

end PacketMeter.Engine
