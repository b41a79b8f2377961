import PacketMeter.Capture.Bridge
import PacketMeter.Engine.Device
import PacketMeter.Filter
import PacketMeter.Stats.Aggregator
import PacketMeter.Stats.Publisher

/-!
# Capture sessions

A controller runs one capture session at a time.  In a session the reader of the
bridge sends records to a channel, a feeder counts them, and snapshots of the
statistics are published.

A session begins when it is asked for and ends when it is asked to, or by itself
once its reader has exited: then the feeder finds its channel at the end, and a
request to stop the session is pending.  Such a request names its session and does
nothing when that session is not running any more.  Every session that ends leaves
such a request behind.

Subscribers get the channel of the running session, or of the next one.  When a
session ends its channel is closed, and a new one is ready for the next session.

The beginning and the end of a session are one step each, which nothing else comes
between.  What the reader and the feeder do, the snapshots in between and the
pending requests are steps of their own, in any order.
-/

namespace PacketMeter.Session

open PacketMeter.Capture (Bridge Packets)
open PacketMeter.Stats

/-- The state of a controller. -/
inductive State where
  | idle
  | starting
  | capturing
  | stopping
  deriving Repr, DecidableEq, Inhabited

def State.name : State → String
  | idle => "Idle"
  | starting => "Starting"
  | capturing => "Capturing"
  | stopping => "Stopping"

/-- What a controller says about its session. -/
structure Status where
  state : State
  device? : Option Nat
  started? : Option Timestamp
  deriving Repr, DecidableEq, Inhabited

/-- The session that runs: its number, its channel, the queue of its feeder, and
whether the feeder has not come to the end yet. -/
structure Running where
  id : Nat
  channel : Nat
  queue : Nat
  feeding : Bool
  deriving Repr, DecidableEq, Inhabited

/-- A controller.  `channel` is the channel for subscribers, `passed` is what it
said about its sessions before, and `departures` are the pending requests to
stop.  `sessions` is the number of the next session: a word of 64 bits would give a
number again only after 2^64 sessions. -/
structure Controller where
  cfg : SessionConfig
  feed? : Option Nat
  bridge : Bridge
  channel : Nat
  status : Status
  passed : List Status
  running? : Option Running
  sessions : Nat
  departures : List Nat
  aggregator : Aggregator
  publisher : Publisher Snapshot
  deriving Inhabited

namespace Status

/-- No session. -/
def idle : Status := ⟨.idle, none, none⟩

end Status

namespace Controller

/-- A controller without a session, for an engine with or without a native
feed. -/
def make (cfg : SessionConfig) (feed? : Option Nat) : Controller :=
  let (channel, bridge) := Bridge.empty.openChannel cfg.capture.capacity cfg.capture.batch
  { cfg, feed?, bridge, channel
    status := .idle
    passed := []
    running? := none
    sessions := 0
    departures := []
    aggregator := Aggregator.make cfg.stats
    publisher := Publisher.make cfg.stats.snapshots }

/-- Moves to another state.  The start of the session stays known until the
controller is idle. -/
def move (c : Controller) (state : State) (device? : Option Nat) (started? : Option Timestamp) :
    Controller :=
  let kept := if state = .idle then none else c.status.started?
  { c with
    status := ⟨state, device?, started?.orElse fun _ => kept⟩
    passed := c.passed ++ [c.status] }

/-- The controller with its subscribers' channel changed. -/
def modifyChannel (c : Controller) (f : Packets → Packets) : Controller :=
  { c with bridge := c.bridge.modifyChannel c.channel f }

/-- Adds a subscriber of the channel that is current.  The result is the channel and
the number of the queue. -/
def subscribe (c : Controller) : (Nat × Nat) × Controller :=
  match c.bridge.channel? c.channel with
  | none => ((c.channel, 0), c)
  | some packets =>
    let (queue, packets) := packets.subscribe
    ((c.channel, queue), c.modifyChannel fun _ => packets)

/-- Adds a subscriber of the snapshots.  The result is the number of the queue. -/
def statistics (c : Controller) : Nat × Controller :=
  let (queue, publisher) := c.publisher.subscribe
  (queue, { c with publisher })

def latest? (c : Controller) : Option Snapshot := c.publisher.latest?

/-- Gives the session whose beginning has worked its number, its feeder and its
state. -/
def run (c : Controller) (device channel queue : Nat) (now : Moment) : Controller :=
  let c := { c with
    aggregator := c.aggregator.begin now.instant
    running? := some ⟨c.sessions, channel, queue, true⟩
    sessions := c.sessions + 1 }
  c.move .capturing (some device) (some now.clock)

/-- Lets the feeder count one batch, or find its queue at the end. -/
def feed (c : Controller) : Controller :=
  match c.running? with
  | none => c
  | some running =>
    if running.feeding then
      match c.bridge.channel? running.channel with
      | none => c
      | some packets =>
        let (result, packets) := packets.take running.queue .batch
        let c := { c with bridge := c.bridge.modifyChannel running.channel fun _ => packets }
        match result with
        | .ready batch => { c with aggregator := c.aggregator.recordAll batch }
        | .ended =>
          { c with
            running? := some { running with feeding := false }
            departures := c.departures ++ [running.id] }
        | .pending => c
    else c

/-- The items that a queue of a channel holds. -/
def queued (c : Controller) (channel queue : Nat) : List PacketRecord :=
  match (c.bridge.channel? channel).bind (·.queue? queue) with
  | some q => q.items
  | none => []

/-- Lets the feeder count, up to so many times. -/
def feedWithin : Nat → Controller → Controller
  | 0, c => c
  | rounds + 1, c => feedWithin rounds c.feed

/-- Lets the feeder count everything that is there, and find the end if it is
there. -/
def feedAll (c : Controller) : Controller :=
  match c.running? with
  | none => c
  | some running => feedWithin ((c.queued running.channel running.queue).length + 1) c

/-- Lets the feeder of a session, whose channel is closed, come to its end. -/
def drain (c : Controller) (running : Running) : Controller :=
  if running.feeding then
    { c with
      aggregator := c.aggregator.recordAll (c.queued running.channel running.queue)
      bridge := c.bridge.modifyChannel running.channel fun packets =>
        packets.modify running.queue fun q => { q with items := [] }
      departures := c.departures ++ [running.id] }
  else c

/-- Closes the channel of a session and makes a new one for subscribers. -/
def renew (c : Controller) (running : Running) : Controller :=
  let bridge := c.bridge.modifyChannel running.channel Channel.close
  let (channel, bridge) := bridge.openChannel c.cfg.capture.capacity c.cfg.capture.batch
  { c with bridge, channel }

variable {σ : Type} [FeedHost σ]

def publish (c : Controller) (now : Moment) (s : σ) : Controller × σ :=
  let (made, aggregator, s) := c.aggregator.tick now s
  ({ c with aggregator, publisher := (c.publisher.publish made).2 }, s)

/-- Publishes the snapshot that is due now and then while a session runs. -/
def tick (c : Controller) (now : Moment) (s : σ) : Controller × σ :=
  if c.running?.isSome then c.publish now s else (c, s)

def clear (c : Controller) (now : Moment) (s : σ) : Except Failure Unit × Controller × σ :=
  let (outcome, aggregator, s) := c.aggregator.clear now.instant s
  let c := { c with aggregator }
  match outcome with
  | .error f => (.error f, c, s)
  | .ok () =>
    let (c, s) := c.publish now s
    (.ok (), c, s)

def configure (c : Controller) (source : Source) (now : Moment) (s : σ) :
    Except Failure Unit × Controller × σ :=
  let (outcome, aggregator, s) := c.aggregator.switch source c.feed? s
  let c := { c with aggregator }
  match outcome with
  | .error f => (.error f, c, s)
  | .ok () =>
    let (c, s) := c.publish now s
    (.ok (), c, s)

variable [CaptureHost σ]

/-- Lists the devices of the engine. -/
def devices (limit : Duration) (s : σ) : Except Failure (List Device) × σ :=
  let (outcome, s) := perform (.devices limit) s
  (outcome.result.map (Device.parseAll 0), s)

/-- Begins a session, unless there is one. -/
def start (c : Controller) (device : Nat) (now : Moment) (s : σ) :
    Except Failure State × Controller × σ :=
  if c.status.state = .idle then
    let c := c.move .starting (some device) none
    let ((channel, queue), c) := c.subscribe
    let (outcome, bridge, s) := c.bridge.start c.cfg.capture device channel s
    let c := { c with bridge }
    match outcome.result with
    | .ok () => (.ok .capturing, c.run device channel queue now, s)
    | .error f =>
      let c := c.modifyChannel (·.release queue)
      (.error f, c.move .idle none none, s)
  else (.ok c.status.state, c, s)

def finish (c : Controller) (running : Running) (now : Moment) (s : σ) : Controller × σ :=
  let c := { c with running? := none }
  let c := c.move .stopping c.status.device? none
  let c := c.renew running
  let (_, bridge, s) := c.bridge.stop c.cfg.capture s
  let c := { c with bridge }
  let c := c.drain running
  let c := { c with
    bridge := c.bridge.modifyChannel running.channel (·.release running.queue)
    aggregator := c.aggregator.finish now.instant }
  let (c, s) := c.publish now s
  (c.move .idle none none, s)

/-- Ends the session that runs, or only the session with a given number. -/
def stop (c : Controller) (only? : Option Nat) (now : Moment) (s : σ) :
    State × Controller × σ :=
  match c.running? with
  | none => (c.status.state, c, s)
  | some running =>
    if only?.all (· == running.id) then
      let (c, s) := c.finish running now s
      (.idle, c, s)
    else (c.status.state, c, s)

/-- Grants the first pending request to stop. -/
def depart (c : Controller) (now : Moment) (s : σ) : Controller × σ :=
  match c.departures with
  | [] => (c, s)
  | id :: departures =>
    let (_, c, s) := { c with departures }.stop (some id) now s
    (c, s)

/-- Ends the session that runs, closes the engine, and ends all subscriptions. -/
def close (c : Controller) (now : Moment) (s : σ) : Except Failure Unit × Controller × σ :=
  let (_, c, s) := c.stop none now s
  let (outcome, s) := perform .close s
  match outcome.result with
  | .error f => (.error f, c, s)
  | .ok () =>
    let c := c.modifyChannel Channel.close
    (.ok (), { c with publisher := c.publisher.close }, s)

/-- The controller with what arrives on the connection of a reader delivered. -/
def deliver (c : Controller) (worker : Nat) (script : List Delivery) : Controller :=
  { c with bridge := c.bridge.deliver worker script }

/-- The controller with the connection of a reader ended. -/
def disconnect (c : Controller) (worker : Nat) : Controller :=
  { c with bridge := c.bridge.disconnect worker }

@[simp] theorem status_move (c : Controller) (state : State) (device? : Option Nat)
    (started : Timestamp) :
    (c.move state device? (some started)).status = ⟨state, device?, some started⟩ := rfl

omit [FeedHost σ] in
/-- A start outside of the idle state does nothing. -/
theorem start_of_ne_idle {c : Controller} (device : Nat) (now : Moment) (s : σ)
    (h : c.status.state ≠ .idle) : c.start device now s = (.ok c.status.state, c, s) := by
  simp [start, h]

/-- Stopping without a session does nothing. -/
theorem stop_of_not_running {c : Controller} (only? : Option Nat) (now : Moment) (s : σ)
    (h : c.running? = none) : c.stop only? now s = (c.status.state, c, s) := by
  simp [stop, h]

end Controller

end PacketMeter.Session
