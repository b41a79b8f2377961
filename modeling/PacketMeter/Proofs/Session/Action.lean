import PacketMeter.Proofs.Capture.Activity
import PacketMeter.Proofs.Channel.Action
import PacketMeter.Session.Controller

/-!
# Actions on a controller

All that can be done to a controller, and all that happens to it by itself, as actions
that are taken one after the other.  An action comes at some moment and with the host in
some state, so that any of its calls may work, fail or crash.  A caller who gives up
waiting misses the answer, and the action goes on without him.

Only some actions begin or end a session.  The others leave alone what tells that there
is one: what the controller says, the running session and the active capture.  They do so
whatever the controller is at, so it does not matter that they may come in the middle of
a beginning or an ending.
-/

namespace PacketMeter.Session

open PacketMeter.Stats

/-- What is done to a controller or happens to it.  The last two are those of subscribers
with a queue of packets or of snapshots. -/
inductive Action where
  | start (device : Nat)
  | stop (only? : Option Nat)
  | depart
  | close
  | clear
  | configure (source : Source)
  | tick
  | feed
  | deliver (worker : Nat) (script : List Delivery)
  | disconnect (worker : Nat)
  | subscribe
  | statistics
  | onPackets (channel : Nat) (action : Channel.Action PacketRecord)
  | onSnapshots (action : Channel.Action Snapshot)
  deriving Inhabited

/-- Whether an action may begin or end a session. -/
def Action.isTransition : Action → Bool
  | start _ | stop _ | depart | close => true
  | _ => false

/-- An action with its moment and the state of the host, and whether its caller waits for
the answer. -/
structure Step (σ : Type) where
  action : Action
  awaited : Bool
  now : Moment
  host : σ

namespace Controller

variable {σ : Type} [FeedHost σ] [CaptureHost σ]

/-- Takes an action, with the answer of those that have one. -/
def act (c : Controller) (now : Moment) (s : σ) :
    Action → Option (Except Failure State) × Controller
  | .start device =>
      let (answer, c, _) := c.start device now s
      (some answer, c)
  | .stop only? =>
      let (state, c, _) := c.stop only? now s
      (some (.ok state), c)
  | .depart => (none, (c.depart now s).1)
  | .close => (none, (c.close now s).2.1)
  | .clear => (none, (c.clear now s).2.1)
  | .configure source => (none, (c.configure source now s).2.1)
  | .tick => (none, (c.tick now s).1)
  | .feed => (none, c.feed)
  | .deliver worker script => (none, c.deliver worker script)
  | .disconnect worker => (none, c.disconnect worker)
  | .subscribe => (none, c.subscribe.2)
  | .statistics => (none, c.statistics.2)
  | .onPackets channel action =>
      (none, { c with bridge := c.bridge.modifyChannel channel (·.act action) })
  | .onSnapshots action =>
      (none, { c with
        publisher := { c.publisher with channel := c.publisher.channel.act action } })

def step (c : Controller) (x : Step σ) : Option (Except Failure State) × Controller :=
  let (answer?, c) := c.act x.now x.host x.action
  (if x.awaited then answer? else none, c)

/-- The controller after several steps. -/
def after (c : Controller) : List (Step σ) → Controller
  | [] => c
  | x :: xs => after (c.step x).2 xs

@[simp] theorem after_nil (c : Controller) : c.after ([] : List (Step σ)) = c := rfl

theorem after_cons (c : Controller) (x : Step σ) (xs : List (Step σ)) :
    c.after (x :: xs) = (c.step x).2.after xs := rfl

theorem after_append (c : Controller) (xs ys : List (Step σ)) :
    c.after (xs ++ ys) = (c.after xs).after ys := by
  induction xs generalizing c with
  | nil => rfl
  | cons x xs ih => rw [List.cons_append, after_cons, after_cons, ih]

theorem after_concat (c : Controller) (xs : List (Step σ)) (x : Step σ) :
    c.after (xs ++ [x]) = ((c.after xs).step x).2 := after_append c xs [x]

/-- What the steps of a run give, one after the other. -/
def gather {β : Type} (f : Controller → Step σ → List β) (c : Controller) :
    List (Step σ) → List β
  | [] => []
  | x :: xs => f c x ++ gather f (c.step x).2 xs

theorem gather_append {β : Type} (f : Controller → Step σ → List β) (c : Controller)
    (xs ys : List (Step σ)) :
    c.gather f (xs ++ ys) = c.gather f xs ++ (c.after xs).gather f ys := by
  induction xs generalizing c with
  | nil => rfl
  | cons x xs ih =>
      rw [List.cons_append, gather, gather, after_cons, ih, List.append_assoc]

theorem gather_concat {β : Type} (f : Controller → Step σ → List β) (c : Controller)
    (xs : List (Step σ)) (x : Step σ) :
    c.gather f (xs ++ [x]) = c.gather f xs ++ f (c.after xs) x := by
  rw [gather_append, gather, gather, List.append_nil]

/-- Every step of a run is as it should be where it is taken. -/
def Throughout (P : Controller → Step σ → Prop) (c : Controller) : List (Step σ) → Prop
  | [] => True
  | x :: xs => P c x ∧ Throughout P (c.step x).2 xs

theorem throughout_append {P : Controller → Step σ → Prop} {c : Controller}
    {xs ys : List (Step σ)} :
    c.Throughout P (xs ++ ys) ↔ c.Throughout P xs ∧ (c.after xs).Throughout P ys := by
  induction xs generalizing c with
  | nil => exact (and_iff_right trivial).symm
  | cons x xs ih => rw [List.cons_append, Throughout, Throughout, after_cons, ih, and_assoc]

theorem Throughout.mono {P Q : Controller → Step σ → Prop} (hpq : ∀ c x, P c x → Q c x)
    {c : Controller} {xs : List (Step σ)} (h : c.Throughout P xs) : c.Throughout Q xs := by
  induction xs generalizing c with
  | nil => trivial
  | cons x xs ih => exact ⟨hpq c x h.1, ih h.2⟩

/-! ## Actions that leave sessions alone -/

/-- Nothing has changed of what tells that there is a session. -/
structure Quiet (c c' : Controller) : Prop where
  status_eq : c'.status = c.status
  passed_eq : c'.passed = c.passed
  session_eq : c'.running?.map Running.id = c.running?.map Running.id
  active_eq : c'.bridge.active? = c.bridge.active?

theorem Quiet.rfl {c : Controller} : Quiet c c := ⟨.refl _, .refl _, .refl _, .refl _⟩

theorem Quiet.trans {c c' c'' : Controller} (h : Quiet c c') (h' : Quiet c' c'') :
    Quiet c c'' where
  status_eq := h'.status_eq.trans h.status_eq
  passed_eq := h'.passed_eq.trans h.passed_eq
  session_eq := h'.session_eq.trans h.session_eq
  active_eq := h'.active_eq.trans h.active_eq

theorem Quiet.isSome_running_eq {c c' : Controller} (h : Quiet c c') :
    c'.running?.isSome = c.running?.isSome := by
  have hs := congrArg Option.isSome h.session_eq
  rwa [Option.isSome_map, Option.isSome_map] at hs

theorem quiet_modifyChannel (c : Controller) (f : Capture.Packets → Capture.Packets) :
    Quiet c (c.modifyChannel f) := ⟨.refl _, .refl _, .refl _, .refl _⟩

theorem quiet_subscribe (c : Controller) : Quiet c c.subscribe.2 := by
  unfold subscribe
  split
  · exact .rfl
  · exact quiet_modifyChannel c _

theorem quiet_feed (c : Controller) : Quiet c c.feed := by
  unfold feed
  split
  · exact .rfl
  · rename_i running hr
    split
    · split
      · exact .rfl
      · dsimp only
        -- The number of the session stays when its feeder comes to the end.
        split
        · exact ⟨rfl, rfl, rfl, rfl⟩
        · exact ⟨rfl, rfl, by rw [hr]; rfl, rfl⟩
        · exact ⟨rfl, rfl, rfl, rfl⟩
    · exact .rfl

theorem quiet_drain (c : Controller) (running : Running) : Quiet c (c.drain running) := by
  unfold drain
  split
  · exact ⟨rfl, rfl, rfl, rfl⟩
  · exact .rfl

section Snapshots

omit [CaptureHost σ]

theorem quiet_publish (c : Controller) (now : Moment) (s : σ) : Quiet c (c.publish now s).1 :=
  ⟨.refl _, .refl _, .refl _, .refl _⟩

theorem quiet_tick (c : Controller) (now : Moment) (s : σ) : Quiet c (c.tick now s).1 := by
  unfold tick
  split
  · exact quiet_publish c now s
  · exact .rfl

theorem quiet_clear (c : Controller) (now : Moment) (s : σ) : Quiet c (c.clear now s).2.1 := by
  unfold clear
  dsimp only
  split
  · exact ⟨rfl, rfl, rfl, rfl⟩
  · exact ⟨rfl, rfl, rfl, rfl⟩

theorem quiet_configure (c : Controller) (source : Source) (now : Moment) (s : σ) :
    Quiet c (c.configure source now s).2.1 := by
  unfold configure
  dsimp only
  split
  · exact ⟨rfl, rfl, rfl, rfl⟩
  · exact ⟨rfl, rfl, rfl, rfl⟩

end Snapshots

theorem quiet_act {a : Action} (h : a.isTransition = false) (c : Controller) (now : Moment)
    (s : σ) : Quiet c (c.act now s a).2 := by
  cases a with
  | start | stop | depart | close => cases h
  | clear => exact quiet_clear c now s
  | configure source => exact quiet_configure c source now s
  | tick => exact quiet_tick c now s
  | feed => exact quiet_feed c
  | deliver worker script =>
      exact ⟨rfl, rfl, rfl, Capture.Bridge.active?_deliver c.bridge worker script⟩
  | disconnect worker =>
      exact ⟨rfl, rfl, rfl, Capture.Bridge.active?_disconnect c.bridge worker⟩
  | subscribe => exact quiet_subscribe c
  | statistics => exact ⟨rfl, rfl, rfl, rfl⟩
  | onPackets => exact ⟨rfl, rfl, rfl, rfl⟩
  | onSnapshots => exact ⟨rfl, rfl, rfl, rfl⟩

end Controller

end PacketMeter.Session
