import PacketMeter.Channel

/-!
# Publishing

A publisher hands every snapshot to all who subscribed, and keeps the last one.
A snapshot that could not be made is not published.  After the publisher was
closed nobody is handed a snapshot any more, but the last one is still kept.
-/

namespace PacketMeter.Stats

/-- A channel of snapshots and the last snapshot. -/
structure Publisher (α : Type) where
  channel : Channel α
  latest? : Option α
  deriving Repr, Inhabited

namespace Publisher

variable {α : Type}

/-- A publisher whose subscribers keep up to `capacity` unread snapshots. -/
def make (capacity : Nat) : Publisher α := ⟨Channel.make capacity 1, none⟩

/-- Publishes a snapshot that was made. -/
def publish (p : Publisher α) : Except Failure α → Except Failure α × Publisher α
  | .error f => (.error f, p)
  | .ok snapshot =>
    match p.channel.send snapshot with
    | (.error f, channel) => (.error f, ⟨channel, some snapshot⟩)
    | (.ok (), channel) => (.ok snapshot, ⟨channel, some snapshot⟩)

/-- Adds a subscriber.  The result is the number of its queue. -/
def subscribe (p : Publisher α) : Nat × Publisher α :=
  let (queue, channel) := p.channel.subscribe
  (queue, { p with channel })

/-- Ends all subscriptions. -/
def close (p : Publisher α) : Publisher α := { p with channel := p.channel.close }

@[simp] theorem publish_error (p : Publisher α) (f : Failure) :
    p.publish (.error f) = (.error f, p) := rfl

@[simp] theorem latest?_publish_ok (p : Publisher α) (snapshot : α) :
    (p.publish (.ok snapshot)).2.latest? = some snapshot := by
  simp only [publish]
  split <;> rfl

end Publisher

end PacketMeter.Stats
