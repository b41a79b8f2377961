import PacketMeter.Failure

/-!
# Channels that drop the oldest item

A channel hands every item to all of its queues.  A queue is shared by everybody
who holds it, and its holders compete for its items.  A queue that is full drops
its oldest item to take a new one, so that sending never waits.

Closing a channel refuses further items.  What is queued can still be taken, and
after that a queue is at its end.

Whoever finds a queue empty and open may wait for it.  A wait is woken by the
next item and by the close, and looks at the queue only when it is asked again
after it was woken.  Another holder may have been faster, and then the wait goes
on.

Waking is done by a notifier.  It wakes all the waits that are registered with it at
that moment, and leaves nothing behind for waits that come later.  So that nothing is
missed, a wait registers before it looks at its queue: what is sent after the look
finds it there.

Queues and waits are known by number.  A queue that nobody holds gets no items
any more: the next item detaches it.
-/

namespace PacketMeter

/-- How much is taken at once: one item, or as many as a batch holds. -/
inductive TakeMode where
  | one
  | batch
  deriving Repr, DecidableEq, Inhabited

/-- The result of asking a queue for items: some, none ever again, or none yet. -/
inductive Poll (α : Type) where
  | ready (items : List α)
  | ended
  | pending
  deriving Repr, DecidableEq, Inhabited

/-- One queue of a channel.  `dropped` is the exact number of items that were dropped: a word
of 64 bits shows the same as long as there are fewer than 2^64. -/
structure ItemQueue (α : Type) where
  items : List α
  closed : Bool
  dropped : Nat
  holders : Nat
  attached : Bool
  deriving Repr, Inhabited

/-- A wait for items of a queue. -/
structure Wait where
  queue : Nat
  mode : TakeMode
  woken : Bool
  deriving Repr, DecidableEq, Inhabited

/-- A channel with all the queues that it ever had. -/
structure Channel (α : Type) where
  capacity : Nat
  batch : Nat
  closed : Bool
  queues : List (ItemQueue α)
  waits : List (Nat × Wait)
  nextWait : Nat
  deriving Repr, Inhabited

namespace ItemQueue

variable {α : Type}

/-- Whether the channel still delivers to the queue and somebody holds it. -/
def isLive (q : ItemQueue α) : Bool := q.attached && 0 < q.holders

/-- The queue after a new item, the oldest item dropped when there is no room. -/
def push (capacity : Nat) (q : ItemQueue α) (a : α) : ItemQueue α :=
  if capacity ≤ q.items.length then
    { q with items := q.items.drop 1 ++ [a], dropped := q.dropped + 1 }
  else { q with items := q.items ++ [a] }

/-- The queue after the channel has sent an item. -/
def deliver (capacity : Nat) (a : α) (q : ItemQueue α) : ItemQueue α :=
  if q.attached then
    if q.holders = 0 then { q with attached := false } else q.push capacity a
  else q

/-- The queue after the channel was closed. -/
def shut (q : ItemQueue α) : ItemQueue α :=
  if q.isLive then { q with closed := true, attached := false } else { q with attached := false }

/-- How many items are taken at once. -/
def room (batch : Nat) : TakeMode → Nat
  | .one => 1
  | .batch => batch

/-- Takes up to `n` items if there are any. -/
def poll (n : Nat) (q : ItemQueue α) : Poll α × ItemQueue α :=
  if q.items.isEmpty then (if q.closed then .ended else .pending, q)
  else (.ready (q.items.take n), { q with items := q.items.drop n })

@[simp] theorem closed_push (capacity : Nat) (q : ItemQueue α) (a : α) :
    (q.push capacity a).closed = q.closed := by
  unfold push; split <;> rfl

@[simp] theorem holders_push (capacity : Nat) (q : ItemQueue α) (a : α) :
    (q.push capacity a).holders = q.holders := by
  unfold push; split <;> rfl

/-- A queue never holds more items than its capacity. -/
theorem length_push_le {capacity : Nat} (q : ItemQueue α) (a : α) (h : 0 < capacity)
    (hq : q.items.length ≤ capacity) : (q.push capacity a).items.length ≤ capacity := by
  unfold push
  split
  · simp only [List.length_append, List.length_drop, List.length_singleton]
    omega
  · simp only [List.length_append, List.length_singleton]
    omega

/-- A push keeps the items in order and loses only the oldest. -/
theorem items_push (capacity : Nat) (q : ItemQueue α) (a : α) :
    (q.push capacity a).items =
      (if capacity ≤ q.items.length then q.items.drop 1 else q.items) ++ [a] := by
  unfold push; split <;> rfl

theorem poll_of_isEmpty {q : ItemQueue α} (n : Nat) (h : q.items = []) :
    q.poll n = (if q.closed then .ended else .pending, q) := by
  simp [poll, h]

end ItemQueue

namespace Channel

variable {α : Type}

/-- An open channel without queues.  A capacity or a batch of zero acts as one. -/
def make (capacity batch : Nat) : Channel α :=
  ⟨max capacity 1, max batch 1, false, [], [], 0⟩

/-- The queue with a number. -/
def queue? (ch : Channel α) (i : Nat) : Option (ItemQueue α) := ch.queues[i]?

/-- The channel with one queue changed. -/
def modify (ch : Channel α) (i : Nat) (f : ItemQueue α → ItemQueue α) : Channel α :=
  { ch with queues := ch.queues.modify i f }

/-- Whether a queue gets what the channel sends. -/
def isLive (ch : Channel α) (i : Nat) : Bool :=
  match ch.queue? i with
  | some q => q.isLive
  | none => false

/-- Wakes the waits on all live queues. -/
def wakeLive (ch : Channel α) : List (Nat × Wait) :=
  ch.waits.map fun (w, wait) => (w, { wait with woken := wait.woken || ch.isLive wait.queue })

/-- Sends an item to every live queue. -/
def send (ch : Channel α) (a : α) : Except Failure Unit × Channel α :=
  if ch.closed then (.error .closed, ch)
  else (.ok (), { ch with
    queues := ch.queues.map (ItemQueue.deliver ch.capacity a)
    waits := ch.wakeLive })

/-- Sends items one after the other.  The result is the number of those that were taken. -/
def sendAll (ch : Channel α) : List α → Nat × Channel α
  | [] => (0, ch)
  | a :: as =>
    match ch.send a with
    | (.error _, ch) => sendAll ch as
    | (.ok (), ch) =>
      let (n, ch) := sendAll ch as
      (n + 1, ch)

/-- Refuses all further items and wakes everybody who waits. -/
def close (ch : Channel α) : Channel α :=
  { ch with closed := true, queues := ch.queues.map ItemQueue.shut, waits := ch.wakeLive }

/-- Adds a queue with one holder.  The result is its number. -/
def subscribe (ch : Channel α) : Nat × Channel α :=
  (ch.queues.length,
    { ch with queues := ch.queues ++ [⟨[], ch.closed, 0, 1, !ch.closed⟩] })

/-- Adds a holder to a queue. -/
def hold (ch : Channel α) (i : Nat) : Channel α :=
  ch.modify i fun q => { q with holders := q.holders + 1 }

/-- Removes a holder of a queue. -/
def release (ch : Channel α) (i : Nat) : Channel α :=
  ch.modify i fun q => { q with holders := q.holders - 1 }

/-- Asks a queue once, without waiting. -/
def take (ch : Channel α) (i : Nat) (mode : TakeMode) : Poll α × Channel α :=
  match ch.queue? i with
  | none => (.pending, ch)
  | some q =>
    let (result, q) := q.poll (ItemQueue.room ch.batch mode)
    (result, ch.modify i fun _ => q)

/-- Takes up to a batch of items, possibly none. -/
def tryBatch (ch : Channel α) (i : Nat) : List α × Channel α :=
  match ch.take i .batch with
  | (.ready items, ch) => (items, ch)
  | (_, ch) => ([], ch)

/-- Waits for items of a queue, which it holds as long as it lasts, and asks once.
The number of the wait is given when it goes on. -/
def beginWait (ch : Channel α) (i : Nat) (mode : TakeMode) : Poll α × Option Nat × Channel α :=
  match ch.take i mode with
  | (.pending, ch) =>
    let ch := ch.hold i
    (.pending, some ch.nextWait,
      { ch with
        waits := ch.waits ++ [(ch.nextWait, ⟨i, mode, false⟩)]
        nextWait := ch.nextWait + 1 })
  | (result, ch) => (result, none, ch)

/-- Ends a wait without taking anything. -/
def cancel (ch : Channel α) (w : Nat) : Channel α :=
  match ch.waits.lookup w with
  | none => ch
  | some wait => { ch.release wait.queue with waits := ch.waits.filter fun e => e.1 ≠ w }

/-- Asks a wait again.  It looks at its queue only when it was woken, and ends when
it finds something. -/
def pollWait (ch : Channel α) (w : Nat) : Poll α × Channel α :=
  match ch.waits.lookup w with
  | none => (.pending, ch)
  | some wait =>
    if wait.woken then
      match ch.take wait.queue wait.mode with
      | (.pending, ch) =>
        (.pending, { ch with waits := ch.waits.map fun (v, u) =>
          if v = w then (v, { u with woken := false }) else (v, u) })
      | (result, ch) => (result, ch.cancel w)
    else (.pending, ch)

/-- A closed channel refuses every item and is not changed by it. -/
theorem send_of_closed {ch : Channel α} (a : α) (h : ch.closed = true) :
    ch.send a = (.error .closed, ch) := by
  simp [send, h]

@[simp] theorem closed_close (ch : Channel α) : ch.close.closed = true := rfl

@[simp] theorem closed_make (capacity batch : Nat) :
    (make capacity batch : Channel α).closed = false := rfl

theorem capacity_make_pos (capacity batch : Nat) :
    0 < (make capacity batch : Channel α).capacity := by
  simp only [make]; omega

theorem batch_make_pos (capacity batch : Nat) :
    0 < (make capacity batch : Channel α).batch := by
  simp only [make]; omega

/-- A new queue is empty, and closed exactly when the channel is. -/
theorem queue?_subscribe (ch : Channel α) :
    (ch.subscribe.2).queue? ch.subscribe.1 = some ⟨[], ch.closed, 0, 1, !ch.closed⟩ := by
  simp [subscribe, queue?]

/-- A wait that was not woken does not look at its queue. -/
theorem pollWait_of_not_woken {ch : Channel α} {w : Nat} {wait : Wait}
    (h : ch.waits.lookup w = some wait) (hw : wait.woken = false) :
    ch.pollWait w = (.pending, ch) := by
  simp [pollWait, h, hw]

end Channel

end PacketMeter
