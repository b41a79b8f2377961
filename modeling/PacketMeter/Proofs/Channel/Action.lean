import PacketMeter.Channel
import PacketMeter.Proofs.Entries

/-!
# Actions on a channel

Whatever the holders of a channel do comes down to nine actions, named by the
numbers of queues and waits.  `Channel.act` is the channel after one of them,
`Channel.actAll` the channel after several.

One queue sees little of that.  `ItemQueue.Change` lists all that an action can do
to a queue that was there before it: some items at its front are handed out, the
number of its holders changes, an item is delivered to it, or it is shut.  What an
action sends and hands out is part of the change, so that a fact about a queue and
its history is proved by the three cases of a change, and never by the nine
actions.
-/

namespace PacketMeter

/-- The items of a result. -/
def Poll.items {α : Type} : Poll α → List α
  | .ready items => items
  | .ended | .pending => []

@[simp] theorem Poll.items_ready {α : Type} (items : List α) :
    (Poll.ready items).items = items := rfl

@[simp] theorem Poll.items_ended {α : Type} : (Poll.ended : Poll α).items = [] := rfl

@[simp] theorem Poll.items_pending {α : Type} : (Poll.pending : Poll α).items = [] := rfl

theorem Poll.ready_ne_pending {α : Type} (items : List α) : Poll.ready items ≠ .pending := by
  intro h
  cases h

theorem Poll.ended_ne_pending {α : Type} : (Poll.ended : Poll α) ≠ .pending := by
  intro h
  cases h

theorem Poll.ended_ne_ready {α : Type} (items : List α) : Poll.ended ≠ Poll.ready items := by
  intro h
  cases h

namespace ItemQueue

variable {α : Type}

/-- What one action does to a queue: whether it closes the channel, the items that it
sends and the items that it hands out of the queue. -/
inductive Change (capacity : Nat) :
    Bool → ItemQueue α → List α → List α → ItemQueue α → Prop where
  | use (q : ItemQueue α) (n holders : Nat) :
      Change capacity false q [] (q.items.take n) { q with items := q.items.drop n, holders }
  | deliver (q : ItemQueue α) (a : α) : Change capacity false q [a] [] (q.deliver capacity a)
  | shut (q : ItemQueue α) : Change capacity true q [] [] q.shut

theorem Change.holders {capacity : Nat} (q : ItemQueue α) (n : Nat) :
    Change capacity false q [] [] { q with holders := n } :=
  .use q 0 n

theorem Change.rest {capacity : Nat} (q : ItemQueue α) : Change capacity false q [] [] q :=
  .use q 0 q.holders

/-- A question hands out what is at the front, which is nothing when nothing is
there. -/
@[simp] theorem items_poll (n : Nat) (q : ItemQueue α) : (q.poll n).1.items = q.items.take n := by
  unfold poll
  cases q.items with
  | nil => cases q.closed <;> simp
  | cons a as => simp

@[simp] theorem queue_poll (n : Nat) (q : ItemQueue α) :
    (q.poll n).2 = { q with items := q.items.drop n } := by
  obtain ⟨items, closed, dropped, holders, attached⟩ := q
  cases items <;> simp [poll]

@[simp] theorem items_shut (q : ItemQueue α) : q.shut.items = q.items := by
  unfold shut; split <;> rfl

@[simp] theorem dropped_shut (q : ItemQueue α) : q.shut.dropped = q.dropped := by
  unfold shut; split <;> rfl

@[simp] theorem holders_shut (q : ItemQueue α) : q.shut.holders = q.holders := by
  unfold shut; split <;> rfl

@[simp] theorem attached_shut (q : ItemQueue α) : q.shut.attached = false := by
  unfold shut; split <;> rfl

@[simp] theorem attached_push (capacity : Nat) (q : ItemQueue α) (a : α) :
    (q.push capacity a).attached = q.attached := by
  unfold push; split <;> rfl

@[simp] theorem holders_deliver (capacity : Nat) (a : α) (q : ItemQueue α) :
    (q.deliver capacity a).holders = q.holders := by
  unfold deliver; split
  · split
    · rfl
    · exact holders_push capacity q a
  · rfl

@[simp] theorem closed_deliver (capacity : Nat) (a : α) (q : ItemQueue α) :
    (q.deliver capacity a).closed = q.closed := by
  unfold deliver; split
  · split
    · rfl
    · exact closed_push capacity q a
  · rfl

end ItemQueue

namespace Channel

variable {α : Type}

/-- One action of a holder, with the number of the queue or the wait that it is
about. -/
inductive Action (α : Type) where
  | send (a : α)
  | close
  | subscribe
  | hold (i : Nat)
  | release (i : Nat)
  | take (i : Nat) (mode : TakeMode)
  | beginWait (i : Nat) (mode : TakeMode)
  | pollWait (w : Nat)
  | cancel (w : Nat)
  deriving Repr, Inhabited

/-- The channel after an action. -/
def act (ch : Channel α) : Action α → Channel α
  | .send a => (ch.send a).2
  | .close => ch.close
  | .subscribe => ch.subscribe.2
  | .hold i => ch.hold i
  | .release i => ch.release i
  | .take i mode => (ch.take i mode).2
  | .beginWait i mode => (ch.beginWait i mode).2.2
  | .pollWait w => (ch.pollWait w).2
  | .cancel w => ch.cancel w

/-- Whether an action closes the channel. -/
def Action.closes : Action α → Bool
  | .close => true
  | _ => false

/-- The items that the channel accepts in an action. -/
def accepted (ch : Channel α) : Action α → List α
  | .send a => if ch.closed then [] else [a]
  | _ => []

/-- The queue that an action asks for items. -/
def asked (ch : Channel α) : Action α → Option Nat
  | .take i _ | .beginWait i _ => some i
  | .pollWait w => (ch.waits.lookup w).map Wait.queue
  | _ => none

/-- The result of an action that asks for items. -/
def outcome (ch : Channel α) : Action α → Poll α
  | .take i mode => (ch.take i mode).1
  | .beginWait i mode => (ch.beginWait i mode).1
  | .pollWait w => (ch.pollWait w).1
  | _ => .pending

/-- The items that an action hands out of a queue. -/
def handed (ch : Channel α) (i : Nat) (x : Action α) : List α :=
  if ch.asked x = some i then (ch.outcome x).items else []

/-- The channel after several actions. -/
def actAll (ch : Channel α) : List (Action α) → Channel α
  | [] => ch
  | x :: xs => actAll (ch.act x) xs

@[simp] theorem actAll_nil (ch : Channel α) : ch.actAll [] = ch := rfl

@[simp] theorem actAll_cons (ch : Channel α) (x : Action α) (xs : List (Action α)) :
    ch.actAll (x :: xs) = (ch.act x).actAll xs := rfl

theorem actAll_append (ch : Channel α) (xs ys : List (Action α)) :
    ch.actAll (xs ++ ys) = (ch.actAll xs).actAll ys := by
  induction xs generalizing ch with
  | nil => rfl
  | cons x xs ih => rw [List.cons_append, actAll_cons, actAll_cons, ih]

theorem lt_length_iff {ch : Channel α} {i : Nat} :
    i < ch.queues.length ↔ ∃ q, ch.queue? i = some q :=
  ⟨fun h => ⟨_, List.getElem?_eq_getElem h⟩, fun ⟨_, hq⟩ => (List.getElem?_eq_some_iff.1 hq).1⟩

theorem not_lt_length {ch : Channel α} {i : Nat} (hq : ch.queue? i = none) :
    ¬ i < ch.queues.length :=
  Nat.not_lt.2 (List.getElem?_eq_none_iff.1 hq)

section Queues

variable (ch : Channel α) (i j w : Nat) (a : α) (mode : TakeMode)

theorem queue?_modify (f : ItemQueue α → ItemQueue α) :
    (ch.modify j f).queue? i = (ch.queue? i).map fun q => if j = i then f q else q := by
  simp only [queue?, modify, List.getElem?_modify]
  rfl

theorem queue?_send :
    (ch.send a).2.queue? i =
      (ch.queue? i).map fun q => if ch.closed then q else q.deliver ch.capacity a := by
  unfold send
  by_cases h : ch.closed = true
  · simp [h]
  · simp [h, queue?]

theorem queue?_close : ch.close.queue? i = (ch.queue? i).map ItemQueue.shut := by
  simp [close, queue?]

theorem queue?_subscribe_of_lt {q : ItemQueue α} (h : ch.queue? i = some q) :
    ch.subscribe.2.queue? i = some q := by
  have hi : i < ch.queues.length := (List.getElem?_eq_some_iff.1 h).1
  simpa [subscribe, queue?, List.getElem?_append_left hi] using h

theorem queue?_hold :
    (ch.hold j).queue? i =
      (ch.queue? i).map fun q => if j = i then { q with holders := q.holders + 1 } else q :=
  queue?_modify ch i j _

theorem queue?_release :
    (ch.release j).queue? i =
      (ch.queue? i).map fun q => if j = i then { q with holders := q.holders - 1 } else q :=
  queue?_modify ch i j _

/-- Asking a queue takes items off its front and leaves the other queues alone. -/
theorem queue?_take :
    (ch.take j mode).2.queue? i =
      (ch.queue? i).map fun q =>
        if j = i then { q with items := q.items.drop (ItemQueue.room ch.batch mode) } else q := by
  unfold take
  cases hj : ch.queue? j with
  | none =>
      by_cases h : j = i
      · subst h; simp [hj]
      · simp [h]
  | some q =>
      simp only [queue?_modify, ItemQueue.queue_poll]
      by_cases h : j = i
      · subst h; simp [hj]
      · simp [h]

end Queues

section Results

variable {ch : Channel α} {i w : Nat} {q : ItemQueue α} {wait : Wait}

theorem modify_self {f : ItemQueue α → ItemQueue α} (hq : ch.queue? i = some q)
    (hf : f q = q) : ch.modify i f = ch := by
  have hl : ch.queues.modify i f = ch.queues := by
    apply List.ext_getElem?
    intro j
    rw [List.getElem?_modify]
    by_cases h : i = j
    · subst h
      simp [show ch.queues[i]? = some q from hq, hf]
    · simp [h]
  simp [modify, hl]

theorem take_of_none (mode : TakeMode) (hq : ch.queue? i = none) :
    ch.take i mode = (.pending, ch) := by
  simp [take, hq]

/-- An empty queue gives nothing, and the channel is left as it is. -/
theorem take_of_nil (mode : TakeMode) (hq : ch.queue? i = some q) (h : q.items = []) :
    ch.take i mode = (if q.closed then .ended else .pending, ch) := by
  simp only [take, hq, ItemQueue.poll_of_isEmpty _ h]
  rw [modify_self hq rfl]

theorem take_of_ne_nil (mode : TakeMode) (hq : ch.queue? i = some q) (h : q.items ≠ []) :
    ch.take i mode =
      (.ready (q.items.take (ItemQueue.room ch.batch mode)),
        ch.modify i fun _ => { q with items := q.items.drop (ItemQueue.room ch.batch mode) }) := by
  have hp : q.poll (ItemQueue.room ch.batch mode) =
      (.ready (q.items.take (ItemQueue.room ch.batch mode)),
        { q with items := q.items.drop (ItemQueue.room ch.batch mode) }) := by
    simp [ItemQueue.poll, h]
  simp only [take, hq, hp]

theorem items_take (mode : TakeMode) (hq : ch.queue? i = some q) :
    (ch.take i mode).1.items = q.items.take (ItemQueue.room ch.batch mode) := by
  simp [take, hq]

theorem take_snd_of_pending {mode : TakeMode} (h : (ch.take i mode).1 = .pending) :
    (ch.take i mode).2 = ch := by
  cases hq : ch.queue? i with
  | none => rw [take_of_none mode hq]
  | some q =>
      by_cases hi : q.items = []
      · rw [take_of_nil mode hq hi]
      · rw [take_of_ne_nil mode hq hi] at h
        cases h

theorem beginWait_of_pending {mode : TakeMode} (h : (ch.take i mode).1 = .pending) :
    ch.beginWait i mode =
      (.pending, some ch.nextWait,
        { ch.hold i with
          waits := ch.waits ++ [(ch.nextWait, ⟨i, mode, false⟩)]
          nextWait := ch.nextWait + 1 }) := by
  have hc := take_snd_of_pending h
  unfold beginWait
  split
  · rename_i ch' he
    rw [he] at hc
    subst hc
    rfl
  · rename_i r ch' hr he
    rw [he] at h
    exact absurd h hr

theorem beginWait_of_ne_pending {mode : TakeMode} (h : (ch.take i mode).1 ≠ .pending) :
    ch.beginWait i mode = ((ch.take i mode).1, none, (ch.take i mode).2) := by
  unfold beginWait
  split
  · rename_i ch' he
    rw [he] at h
    exact absurd rfl h
  · rename_i r ch' hr he
    rw [he]

/-- A wait begins with the answer that the queue gives at once. -/
theorem beginWait_fst (mode : TakeMode) : (ch.beginWait i mode).1 = (ch.take i mode).1 := by
  by_cases h : (ch.take i mode).1 = .pending
  · rw [beginWait_of_pending h, h]
  · rw [beginWait_of_ne_pending h]

theorem cancel_of_none (h : ch.waits.lookup w = none) : ch.cancel w = ch := by
  simp [cancel, h]

theorem cancel_of_some (h : ch.waits.lookup w = some wait) :
    ch.cancel w =
      { ch.release wait.queue with waits := ch.waits.filter fun e => e.1 ≠ w } := by
  simp [cancel, h]

theorem pollWait_of_none (h : ch.waits.lookup w = none) : ch.pollWait w = (.pending, ch) := by
  simp [pollWait, h]

/-- The channel with one wait put back to sleep. -/
def resume (ch : Channel α) (w : Nat) : Channel α :=
  { ch with waits := ch.waits.map fun (v, u) =>
      if v = w then (v, { u with woken := false }) else (v, u) }

theorem pollWait_of_pending (h : ch.waits.lookup w = some wait) (hw : wait.woken = true)
    (ht : (ch.take wait.queue wait.mode).1 = .pending) :
    ch.pollWait w = (.pending, ch.resume w) := by
  have hc := take_snd_of_pending ht
  simp only [pollWait, h, hw, if_true]
  split
  · rename_i ch' he
    rw [he] at hc
    subst hc
    rfl
  · rename_i r ch' hr he
    rw [he] at ht
    exact absurd ht hr

theorem pollWait_of_ne_pending (h : ch.waits.lookup w = some wait) (hw : wait.woken = true)
    (ht : (ch.take wait.queue wait.mode).1 ≠ .pending) :
    ch.pollWait w =
      ((ch.take wait.queue wait.mode).1, (ch.take wait.queue wait.mode).2.cancel w) := by
  simp only [pollWait, h, hw, if_true]

@[simp] theorem waits_take (ch : Channel α) (i : Nat) (mode : TakeMode) :
    (ch.take i mode).2.waits = ch.waits := by
  unfold take
  split <;> rfl

end Results

/-! ## What no action changes -/

section Constants

variable (ch : Channel α) (i w : Nat) (mode : TakeMode)

/-- Asking for items changes at most the items of queues. -/
theorem take_snd_eq : ∃ queues, (ch.take i mode).2 = { ch with queues } := by
  unfold take
  split
  · exact ⟨ch.queues, rfl⟩
  · exact ⟨_, rfl⟩

theorem cancel_eq : ∃ queues waits, ch.cancel w = { ch with queues, waits } := by
  unfold cancel
  split
  · exact ⟨ch.queues, ch.waits, rfl⟩
  · exact ⟨_, _, rfl⟩

theorem beginWait_snd_eq :
    ∃ queues waits nextWait, (ch.beginWait i mode).2.2 = { ch with queues, waits, nextWait } := by
  by_cases h : (ch.take i mode).1 = .pending
  · exact ⟨_, _, _, by rw [beginWait_of_pending h]; rfl⟩
  · obtain ⟨queues, hq⟩ := ch.take_snd_eq i mode
    exact ⟨queues, ch.waits, ch.nextWait, by rw [beginWait_of_ne_pending h, hq]⟩

theorem pollWait_snd_eq : ∃ queues waits, (ch.pollWait w).2 = { ch with queues, waits } := by
  cases h : ch.waits.lookup w with
  | none => exact ⟨ch.queues, ch.waits, by rw [pollWait_of_none h]⟩
  | some wait =>
      cases hw : wait.woken with
      | false => exact ⟨ch.queues, ch.waits, by rw [pollWait_of_not_woken h hw]⟩
      | true =>
          by_cases hp : (ch.take wait.queue wait.mode).1 = .pending
          · exact ⟨_, _, by rw [pollWait_of_pending h hw hp]; rfl⟩
          · obtain ⟨queues, hq⟩ := ch.take_snd_eq wait.queue wait.mode
            obtain ⟨queues', waits, hc⟩ := (ch.take wait.queue wait.mode).2.cancel_eq w
            exact ⟨queues', waits, by rw [pollWait_of_ne_pending h hw hp, hc, hq]⟩

/-- The capacity and the batch of a channel never change, and a channel is closed by
the action of closing it and by no other. -/
theorem constants_act (x : Action α) :
    (ch.act x).capacity = ch.capacity ∧ (ch.act x).batch = ch.batch ∧
      (ch.act x).closed = (ch.closed || x.closes) := by
  cases x with
  | send a => by_cases h : ch.closed = true <;> simp [act, send, h, Action.closes]
  | close => simp [act, close, Action.closes]
  | subscribe => simp [act, subscribe, Action.closes]
  | hold i => simp [act, hold, modify, Action.closes]
  | release i => simp [act, release, modify, Action.closes]
  | take i mode =>
      obtain ⟨queues, h⟩ := ch.take_snd_eq i mode
      simp [act, h, Action.closes]
  | beginWait i mode =>
      obtain ⟨queues, waits, nextWait, h⟩ := ch.beginWait_snd_eq i mode
      simp [act, h, Action.closes]
  | pollWait w =>
      obtain ⟨queues, waits, h⟩ := ch.pollWait_snd_eq w
      simp [act, h, Action.closes]
  | cancel w =>
      obtain ⟨queues, waits, h⟩ := ch.cancel_eq w
      simp [act, h, Action.closes]

end Constants

@[simp] theorem capacity_act (ch : Channel α) (x : Action α) :
    (ch.act x).capacity = ch.capacity :=
  (ch.constants_act x).1

@[simp] theorem batch_act (ch : Channel α) (x : Action α) : (ch.act x).batch = ch.batch :=
  (ch.constants_act x).2.1

theorem closed_act (ch : Channel α) (x : Action α) :
    (ch.act x).closed = (ch.closed || x.closes) :=
  (ch.constants_act x).2.2

@[simp] theorem capacity_actAll (ch : Channel α) (xs : List (Action α)) :
    (ch.actAll xs).capacity = ch.capacity := by
  induction xs generalizing ch with
  | nil => rfl
  | cons x xs ih => rw [actAll_cons, ih, capacity_act]

@[simp] theorem batch_actAll (ch : Channel α) (xs : List (Action α)) :
    (ch.actAll xs).batch = ch.batch := by
  induction xs generalizing ch with
  | nil => rfl
  | cons x xs ih => rw [actAll_cons, ih, batch_act]

theorem closed_actAll (ch : Channel α) (xs : List (Action α)) :
    (ch.actAll xs).closed = (ch.closed || xs.any Action.closes) := by
  induction xs generalizing ch with
  | nil => simp
  | cons x xs ih => rw [actAll_cons, ih, closed_act, List.any_cons, Bool.or_assoc]

/-! ## What an action does to a queue -/

section Changes

variable {ch : Channel α} {i : Nat} {q : ItemQueue α}

/-- An action that asks a queue, and leaves it with some number of holders, hands
out the front of that queue and nothing of any other. -/
theorem change_of_take {ch' : Channel α} (hq : ch.queue? i = some q) (j n : Nat)
    (mode : TakeMode)
    (hq' : ch'.queue? i =
      ((ch.take j mode).2.queue? i).map fun p => if j = i then { p with holders := n } else p) :
    ∃ q', ch'.queue? i = some q' ∧
      q.Change ch.capacity false [] (if j = i then (ch.take j mode).1.items else []) q' := by
  rw [hq', queue?_take, hq]
  by_cases h : j = i
  · subst h
    simp only [Option.map_some, if_true, items_take mode hq]
    exact ⟨_, rfl, .use q _ n⟩
  · simp only [Option.map_some, h, if_false]
    exact ⟨_, rfl, .rest q⟩

theorem change_beginWait (hq : ch.queue? i = some q) (j : Nat) (mode : TakeMode) :
    ∃ q', (ch.beginWait j mode).2.2.queue? i = some q' ∧
      q.Change ch.capacity false [] (ch.handed i (.beginWait j mode)) q' := by
  have hh : ch.handed i (.beginWait j mode) =
      if j = i then (ch.take j mode).1.items else [] := by
    simp only [handed, asked, outcome, Option.some.injEq, beginWait_fst]
  rw [hh]
  by_cases hp : (ch.take j mode).1 = .pending
  · refine change_of_take hq j (q.holders + 1) mode ?_
    have he : (ch.beginWait j mode).2.2.queue? i = (ch.hold j).queue? i := by
      rw [beginWait_of_pending hp]
      rfl
    rw [he, take_snd_of_pending hp, queue?_hold, hq]
    rfl
  · refine change_of_take hq j q.holders mode ?_
    rw [beginWait_of_ne_pending hp, queue?_take, hq]
    by_cases h : j = i <;> simp [h]

theorem change_cancel (hq : ch.queue? i = some q) (w : Nat) :
    ∃ n, (ch.cancel w).queue? i = some { q with holders := n } := by
  cases h : ch.waits.lookup w with
  | none => exact ⟨q.holders, by rw [cancel_of_none h, hq]⟩
  | some wait =>
      have he : (ch.cancel w).queue? i = (ch.release wait.queue).queue? i := by
        rw [cancel_of_some h]
        rfl
      rw [he, queue?_release, hq]
      by_cases hi : wait.queue = i
      · exact ⟨q.holders - 1, by simp [hi]⟩
      · exact ⟨q.holders, by simp [hi]⟩

theorem change_pollWait (hq : ch.queue? i = some q) (w : Nat) :
    ∃ q', (ch.pollWait w).2.queue? i = some q' ∧
      q.Change ch.capacity false [] (ch.handed i (.pollWait w)) q' := by
  cases h : ch.waits.lookup w with
  | none =>
      refine ⟨q, by rw [pollWait_of_none h, hq], ?_⟩
      simpa [handed, asked, h] using ItemQueue.Change.rest q
  | some wait =>
      have hh : ch.handed i (.pollWait w) =
          if wait.queue = i then (ch.pollWait w).1.items else [] := by
        simp only [handed, asked, outcome, h, Option.map_some, Option.some.injEq]
      rw [hh]
      cases hw : wait.woken with
      | false =>
          refine ⟨q, by rw [pollWait_of_not_woken h hw, hq], ?_⟩
          simpa [pollWait_of_not_woken h hw] using ItemQueue.Change.rest q
      | true =>
          by_cases hp : (ch.take wait.queue wait.mode).1 = .pending
          · refine ⟨q, by rw [pollWait_of_pending h hw hp]; exact hq, ?_⟩
            simpa [pollWait_of_pending h hw hp] using ItemQueue.Change.rest q
          · have ht : (ch.take wait.queue wait.mode).2.waits.lookup w = some wait := by
              rw [waits_take, h]
            rw [pollWait_of_ne_pending h hw hp]
            refine change_of_take hq wait.queue (q.holders - 1) wait.mode ?_
            rw [cancel_of_some ht]
            change ((ch.take wait.queue wait.mode).2.release wait.queue).queue? i = _
            rw [queue?_release, queue?_take, hq]
            by_cases hi : wait.queue = i <;> simp [hi]

/-- A queue goes through an action by one change, with the items that the action
sends and those that it hands out of this queue. -/
theorem change_act (hq : ch.queue? i = some q) (x : Action α) :
    ∃ q', (ch.act x).queue? i = some q' ∧
      q.Change ch.capacity x.closes (ch.accepted x) (ch.handed i x) q' := by
  cases x with
  | send a =>
      by_cases h : ch.closed = true
      · refine ⟨q, by simp [act, queue?_send, hq, h], ?_⟩
        simpa [accepted, handed, asked, Action.closes, h] using ItemQueue.Change.rest q
      · refine ⟨q.deliver ch.capacity a, by simp [act, queue?_send, hq, h], ?_⟩
        simpa [accepted, handed, asked, Action.closes, h] using ItemQueue.Change.deliver q a
  | close => exact ⟨q.shut, by simp [act, queue?_close, hq], .shut q⟩
  | subscribe => exact ⟨q, queue?_subscribe_of_lt ch i hq, .rest q⟩
  | hold j =>
      refine ⟨_, by rw [act, queue?_hold, hq]; rfl, ?_⟩
      split
      · exact .holders q _
      · exact .rest q
  | release j =>
      refine ⟨_, by rw [act, queue?_release, hq]; rfl, ?_⟩
      split
      · exact .holders q _
      · exact .rest q
  | take j mode =>
      have htake : (ch.take j mode).2.queue? i = ((ch.take j mode).2.queue? i).map fun p =>
          if j = i then { p with holders := q.holders } else p := by
        rw [queue?_take, hq]
        by_cases h : j = i <;> simp [h]
      have hc := change_of_take hq j q.holders mode htake
      simpa [act, accepted, handed, asked, outcome, Action.closes] using hc
  | beginWait j mode => exact change_beginWait hq j mode
  | pollWait w => exact change_pollWait hq w
  | cancel w =>
      obtain ⟨n, hn⟩ := change_cancel hq w
      exact ⟨_, hn, .holders q n⟩

theorem queue?_cancel_of_none (hq : ch.queue? i = none) (w : Nat) :
    (ch.cancel w).queue? i = none := by
  cases h : ch.waits.lookup w with
  | none => rw [cancel_of_none h, hq]
  | some wait =>
      rw [cancel_of_some h]
      change (ch.release wait.queue).queue? i = none
      rw [queue?_release, hq, Option.map_none]

theorem queue?_pollWait_of_none (hq : ch.queue? i = none) (w : Nat) :
    (ch.pollWait w).2.queue? i = none := by
  cases h : ch.waits.lookup w with
  | none => rw [pollWait_of_none h, hq]
  | some wait =>
      cases hw : wait.woken with
      | false => rw [pollWait_of_not_woken h hw, hq]
      | true =>
          by_cases hp : (ch.take wait.queue wait.mode).1 = .pending
          · rw [pollWait_of_pending h hw hp]
            exact hq
          · rw [pollWait_of_ne_pending h hw hp]
            apply queue?_cancel_of_none
            rw [queue?_take, hq, Option.map_none]

/-- A queue that comes with an action is a new one. -/
theorem queue?_act_of_none (hq : ch.queue? i = none) (x : Action α)
    (hq' : (ch.act x).queue? i = some q) :
    q = ⟨[], ch.closed, 0, 1, !ch.closed⟩ ∧ x = .subscribe := by
  cases x with
  | send a => simp [act, queue?_send, hq] at hq'
  | close => simp [act, queue?_close, hq] at hq'
  | subscribe =>
      have hi : ch.queues.length ≤ i := List.getElem?_eq_none_iff.1 hq
      simp only [act, subscribe, queue?, List.getElem?_append_right hi,
        List.getElem?_singleton] at hq'
      split at hq'
      · exact ⟨(Option.some.inj hq').symm, rfl⟩
      · cases hq'
  | hold j => simp [act, queue?_hold, hq] at hq'
  | release j => simp [act, queue?_release, hq] at hq'
  | take j mode => simp [act, queue?_take, hq] at hq'
  | beginWait j mode =>
      by_cases hp : (ch.take j mode).1 = .pending
      · rw [act, beginWait_of_pending hp] at hq'
        change (ch.hold j).queue? i = some q at hq'
        simp [queue?_hold, hq] at hq'
      · rw [act, beginWait_of_ne_pending hp] at hq'
        simp [queue?_take, hq] at hq'
  | pollWait w => simp [act, queue?_pollWait_of_none hq] at hq'
  | cancel w => simp [act, queue?_cancel_of_none hq] at hq'

end Changes

end Channel

end PacketMeter
